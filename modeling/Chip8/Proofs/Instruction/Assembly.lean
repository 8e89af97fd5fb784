import Chip8.Instruction.Spelling
import Chip8.Proofs.Text.Hex
import Mathlib.Data.List.Basic

namespace Chip8

open Text

def Nibble.ofDigit (n : Char) : Nibble :=
  Fin.ofNat 16 (hexValue [n])

def byteOfDigits (y n : Char) : UInt8 :=
  UInt8.ofNat (hexValue [y, n])

def Address.ofDigits (x y n : Char) : Address :=
  Fin.ofNat 4096 (hexValue [x, y, n])

def Opcode.ofDigits (kind x y n : Char) : Opcode :=
  Opcode.ofNat (hexValue [kind, x, y, n])

namespace Instruction

def assembleLoad : List Char → Option Instruction
  | ['V', x, ',', ' ', '0', 'x', y, n] => some (.loadByte (.ofDigit x) (byteOfDigits y n))
  | ['V', x, ',', ' ', 'V', y] => some (.copy (.ofDigit x) (.ofDigit y))
  | ['I', ',', ' ', '0', 'x', x, y, n] => some (.loadIndex (.ofDigits x y n))
  | ['V', x, ',', ' ', 'D', 'T'] => some (.readDelay (.ofDigit x))
  | ['V', x, ',', ' ', 'K'] => some (.awaitKey (.ofDigit x))
  | ['D', 'T', ',', ' ', 'V', x] => some (.setDelay (.ofDigit x))
  | ['S', 'T', ',', ' ', 'V', x] => some (.setSound (.ofDigit x))
  | ['F', ',', ' ', 'V', x] => some (.loadGlyph (.ofDigit x))
  | ['B', ',', ' ', 'V', x] => some (.storeDecimal (.ofDigit x))
  | ['[', 'I', ']', ',', ' ', 'V', x] => some (.storeRegisters (.ofDigit x))
  | ['V', x, ',', ' ', '[', 'I', ']'] => some (.loadRegisters (.ofDigit x))
  | _ => none

def assemble : List Char → Option Instruction
  | ['C', 'L', 'S'] => some .clear
  | ['R', 'E', 'T'] => some .ret
  | ['S', 'Y', 'S', ' ', '0', 'x', x, y, n] => some (.sys (.ofDigits x y n))
  | ['J', 'P', ' ', '0', 'x', x, y, n] => some (.jump (.ofDigits x y n))
  | ['J', 'P', ' ', 'V', '0', ',', ' ', '0', 'x', x, y, n] => some (.jumpOffset (.ofDigits x y n))
  | ['C', 'A', 'L', 'L', ' ', '0', 'x', x, y, n] => some (.call (.ofDigits x y n))
  | ['S', 'E', ' ', 'V', x, ',', ' ', '0', 'x', y, n] =>
    some (.skipIfByte (.ofDigit x) (byteOfDigits y n))
  | ['S', 'E', ' ', 'V', x, ',', ' ', 'V', y] => some (.skipIfEqual (.ofDigit x) (.ofDigit y))
  | ['S', 'N', 'E', ' ', 'V', x, ',', ' ', '0', 'x', y, n] =>
    some (.skipUnlessByte (.ofDigit x) (byteOfDigits y n))
  | ['S', 'N', 'E', ' ', 'V', x, ',', ' ', 'V', y] =>
    some (.skipIfDifferent (.ofDigit x) (.ofDigit y))
  | ['A', 'D', 'D', ' ', 'V', x, ',', ' ', '0', 'x', y, n] =>
    some (.addByte (.ofDigit x) (byteOfDigits y n))
  | ['A', 'D', 'D', ' ', 'V', x, ',', ' ', 'V', y] => some (.add (.ofDigit x) (.ofDigit y))
  | ['A', 'D', 'D', ' ', 'I', ',', ' ', 'V', x] => some (.addIndex (.ofDigit x))
  | ['O', 'R', ' ', 'V', x, ',', ' ', 'V', y] => some (.or (.ofDigit x) (.ofDigit y))
  | ['A', 'N', 'D', ' ', 'V', x, ',', ' ', 'V', y] => some (.and (.ofDigit x) (.ofDigit y))
  | ['X', 'O', 'R', ' ', 'V', x, ',', ' ', 'V', y] => some (.xor (.ofDigit x) (.ofDigit y))
  | ['S', 'U', 'B', ' ', 'V', x, ',', ' ', 'V', y] => some (.sub (.ofDigit x) (.ofDigit y))
  | ['S', 'U', 'B', 'N', ' ', 'V', x, ',', ' ', 'V', y] =>
    some (.subReverse (.ofDigit x) (.ofDigit y))
  | ['S', 'H', 'R', ' ', 'V', x, ' ', '\x7b', ',', ' ', 'V', y, '\x7d'] =>
    some (.shiftRight (.ofDigit x) (.ofDigit y))
  | ['S', 'H', 'L', ' ', 'V', x, ' ', '\x7b', ',', ' ', 'V', y, '\x7d'] =>
    some (.shiftLeft (.ofDigit x) (.ofDigit y))
  | ['R', 'N', 'D', ' ', 'V', x, ',', ' ', '0', 'x', y, n] =>
    some (.random (.ofDigit x) (byteOfDigits y n))
  | ['D', 'R', 'W', ' ', 'V', x, ',', ' ', 'V', y, ',', ' ', '0', 'x', n] =>
    some (.draw (.ofDigit x) (.ofDigit y) (.ofDigit n))
  | ['S', 'K', 'P', ' ', 'V', x] => some (.skipIfKey (.ofDigit x))
  | ['S', 'K', 'N', 'P', ' ', 'V', x] => some (.skipUnlessKey (.ofDigit x))
  | ['?', '?', '?', ' ', '0', 'x', kind, x, y, n] => some (.unmapped (.ofDigits kind x y n))
  | 'L' :: 'D' :: ' ' :: operands => assembleLoad operands
  | _ => none

theorem exists_nibbleDigit (x : Nibble) :
    ∃ c, (hex 1 x.val).toList = [c] ∧ Nibble.ofDigit c = x := by
  obtain ⟨c, digits⟩ := List.length_eq_one_iff.1 (length_hexField Nat.one_pos x.isLt)
  refine ⟨c, (toList_hex _ _).trans digits, ?_⟩
  rw [Nibble.ofDigit, ← digits, hexValue_hexField]
  exact Fin.ofNat_val_eq_self x

theorem exists_byteDigits (byte : UInt8) :
    ∃ y n, (hexByte byte).toList = [y, n] ∧ byteOfDigits y n = byte := by
  obtain ⟨y, n, digits⟩ := List.length_eq_two.1 (length_hexField Nat.two_pos byte.toNat_lt)
  refine ⟨y, n, (toList_hex _ _).trans digits, ?_⟩
  rw [byteOfDigits, ← digits, hexValue_hexField]
  exact UInt8.ofNat_toNat

theorem exists_addressDigits (target : Address) :
    ∃ x y n, (hex 3 target.val).toList = [x, y, n] ∧ Address.ofDigits x y n = target := by
  obtain ⟨x, y, n, digits⟩ :=
    List.length_eq_three.1 (length_hexField (Nat.succ_pos 2) target.isLt)
  refine ⟨x, y, n, (toList_hex _ _).trans digits, ?_⟩
  rw [Address.ofDigits, ← digits, hexValue_hexField]
  exact Fin.ofNat_val_eq_self target

theorem exists_opcodeDigits (word : Opcode) :
    ∃ kind x y n, word.text.toList = [kind, x, y, n] ∧ Opcode.ofDigits kind x y n = word := by
  obtain ⟨kind, x, y, n, digits⟩ :=
    List.length_eq_four.1 (length_hexField (Nat.succ_pos 3) word.toNat_lt)
  refine ⟨kind, x, y, n, (toList_hex _ _).trans digits, ?_⟩
  rw [Opcode.ofDigits, ← digits, hexValue_hexField]
  exact Opcode.ofNat_toNat word

theorem assemble_mnemonic (instruction : Instruction) :
    assemble instruction.mnemonic.toList = some instruction := by
  cases instruction with
  | clear | ret => rfl
  | sys target | jump target | call target | loadIndex target | jumpOffset target =>
    obtain ⟨_, _, _, text, rfl⟩ := exists_addressDigits target
    simp only [mnemonic, addressText, String.toList_append, text]
    rfl
  | skipIfByte x byte | skipUnlessByte x byte | loadByte x byte | addByte x byte
  | random x byte =>
    obtain ⟨_, first, rfl⟩ := exists_nibbleDigit x
    obtain ⟨_, _, second, rfl⟩ := exists_byteDigits byte
    simp only [mnemonic, registerByteText, registerText, byteText, String.toList_append, first,
      second]
    rfl
  | shiftRight x y | shiftLeft x y =>
    obtain ⟨_, first, rfl⟩ := exists_nibbleDigit x
    obtain ⟨_, second, rfl⟩ := exists_nibbleDigit y
    simp only [mnemonic, shiftText, registerText, String.toList_append, first, second]
    rfl
  | draw x y rows =>
    obtain ⟨_, first, rfl⟩ := exists_nibbleDigit x
    obtain ⟨_, second, rfl⟩ := exists_nibbleDigit y
    obtain ⟨_, third, rfl⟩ := exists_nibbleDigit rows
    simp only [mnemonic, pairText, registerText, String.toList_append, first, second, third]
    rfl
  | skipIfEqual x y | copy x y | or x y | and x y | xor x y | add x y | sub x y | subReverse x y
  | skipIfDifferent x y =>
    obtain ⟨_, first, rfl⟩ := exists_nibbleDigit x
    obtain ⟨_, second, rfl⟩ := exists_nibbleDigit y
    simp only [mnemonic, pairText, registerText, String.toList_append, first, second]
    rfl
  | unmapped word =>
    obtain ⟨_, _, _, _, text, rfl⟩ := exists_opcodeDigits word
    simp only [mnemonic, String.toList_append, text]
    rfl
  | skipIfKey x | skipUnlessKey x | readDelay x | awaitKey x | setDelay x | setSound x
  | addIndex x | loadGlyph x | storeDecimal x | storeRegisters x | loadRegisters x =>
    obtain ⟨_, text, rfl⟩ := exists_nibbleDigit x
    simp only [mnemonic, registerText, String.toList_append, text]
    rfl

theorem mnemonic_injective : Function.Injective mnemonic := by
  intro a b same
  have read := assemble_mnemonic a
  rw [same, assemble_mnemonic] at read
  exact (Option.some.inj read).symm

end Instruction

end Chip8
