import Chip8.Text.Hex

namespace Chip8

abbrev Nibble := Fin 16

abbrev Address := Fin 4096

instance neZero_nibbles : @NeZero Nat Zero.ofOfNat0 16 := ⟨Nat.succ_ne_zero 15⟩

instance neZero_addresses : @NeZero Nat Zero.ofOfNat0 4096 := ⟨Nat.succ_ne_zero 4095⟩

theorem Nibble.lt (x : Nibble) : x.val < 16 := x.isLt

/-- A sixteen-bit instruction word, most significant nibble first. -/
structure Opcode where
  kind : Nibble
  x : Nibble
  y : Nibble
  n : Nibble
deriving DecidableEq, Repr, Inhabited

namespace Opcode

def ofNat (word : Nat) : Opcode where
  kind := ⟨word / 4096 % 16, by omega⟩
  x := ⟨word / 256 % 16, by omega⟩
  y := ⟨word / 16 % 16, by omega⟩
  n := ⟨word % 16, by omega⟩

/-- The word with the low sixteen bits of an integer, in two's complement if it is negative. -/
def ofInt (word : Int) : Opcode :=
  ofNat (word % 65536).toNat

def ofBytes (high low : UInt8) : Opcode :=
  ofNat (256 * high.toNat + low.toNat)

def toNat (word : Opcode) : Nat :=
  4096 * word.kind + 256 * word.x + 16 * word.y + word.n

def byte (word : Opcode) : UInt8 :=
  UInt8.ofNat word.toNat

def address (word : Opcode) : Address :=
  ⟨word.toNat % 4096, by omega⟩

def text (word : Opcode) : String :=
  Text.hex 4 word.toNat

theorem toNat_ofNat (n : Nat) : (ofNat n).toNat = n % 65536 := by
  simp only [ofNat, toNat]
  omega

theorem ofNat_toNat (word : Opcode) : ofNat word.toNat = word := by
  obtain ⟨kind, x, y, n⟩ := word
  have hkind := kind.isLt
  have hx := x.isLt
  have hy := y.isLt
  have hn := n.isLt
  simp only [ofNat, toNat, Opcode.mk.injEq, Fin.ext_iff]
  omega

theorem toNat_lt (word : Opcode) : word.toNat < 65536 := by
  rw [← ofNat_toNat word, toNat_ofNat]
  omega

theorem toNat_ofBytes (high low : UInt8) :
    (ofBytes high low).toNat = 256 * high.toNat + low.toNat := by
  have hhigh := high.toNat_lt
  have hlow := low.toNat_lt
  rw [ofBytes, toNat_ofNat]
  omega

theorem toNat_byte (word : Opcode) : word.byte.toNat = 16 * word.y + word.n := by
  have hy := word.y.isLt
  have hn := word.n.isLt
  simp only [byte, toNat, UInt8.toNat_ofNat']
  omega

theorem address_val (word : Opcode) : word.address.val = 256 * word.x + 16 * word.y + word.n := by
  have hx := word.x.isLt
  have hy := word.y.isLt
  have hn := word.n.isLt
  simp only [address, toNat]
  omega

end Opcode

end Chip8
