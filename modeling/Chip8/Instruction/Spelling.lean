import Chip8.Instruction

namespace Chip8.Instruction

theorem wordOfAddress_eq {word : Opcode} {kind : Nibble} {target : Address}
    (hkind : word.kind = kind) (htarget : word.address.val = target.val) :
    wordOfAddress kind target = word := by
  obtain ⟨k, x, y, n⟩ := word
  have hx := x.isLt
  have hy := y.isLt
  have hn := n.isLt
  rw [Opcode.address_val] at htarget
  dsimp only at htarget
  simp only [wordOfAddress, Opcode.ofNat, Opcode.mk.injEq, Fin.ext_iff]
  exact ⟨(Fin.ext_iff.1 hkind).symm, by omega, by omega, by omega⟩

theorem wordOfByte_eq {word : Opcode} {kind : Nibble} {byte : UInt8}
    (hkind : word.kind = kind) (hbyte : word.byte.toNat = byte.toNat) :
    wordOfByte kind word.x byte = word := by
  obtain ⟨k, x, y, n⟩ := word
  have hy := y.isLt
  have hn := n.isLt
  rw [Opcode.toNat_byte] at hbyte
  dsimp only at hbyte ⊢
  simp only [wordOfByte, Opcode.ofNat, Opcode.mk.injEq, Fin.ext_iff]
  exact ⟨(Fin.ext_iff.1 hkind).symm, trivial, by omega, by omega⟩

theorem nibbles_eq {word : Opcode} {kind n : Nibble}
    (hkind : word.kind = kind) (hn : word.n.val = n.val) :
    (⟨kind, word.x, word.y, n⟩ : Opcode) = word := by
  cases word
  cases hkind
  cases Fin.ext hn
  rfl

theorem encode_decodeSystem {word : Opcode} (hkind : word.kind = 0) :
    encode (decodeSystem word) = word := by
  unfold decodeSystem
  split
  next address => exact wordOfAddress_eq hkind address
  next =>
    split
    next address => exact wordOfAddress_eq hkind address
    next => exact wordOfAddress_eq hkind rfl

theorem encode_decodeArithmetic {word : Opcode} (hkind : word.kind = 8) :
    encode (decodeArithmetic word) = word := by
  unfold decodeArithmetic
  split
  case h_10 => rfl
  all_goals
    rename_i digit
    exact nibbles_eq hkind digit

theorem encode_decodeKey {word : Opcode} (hkind : word.kind = 0xE) :
    encode (decodeKey word word.byte.toNat) = word := by
  unfold decodeKey
  split
  case h_3 => rfl
  all_goals
    rename_i byte
    exact wordOfByte_eq hkind byte

theorem encode_decodeMiscellaneous {word : Opcode} (hkind : word.kind = 0xF) :
    encode (decodeMiscellaneous word word.byte.toNat) = word := by
  unfold decodeMiscellaneous
  split
  case h_10 => rfl
  all_goals
    rename_i byte
    exact wordOfByte_eq hkind byte

theorem encode_decode (word : Opcode) : encode (decode word) = word := by
  have hkind := word.kind.isLt
  unfold decode
  split
  next kind => exact encode_decodeSystem (Fin.ext kind)
  next kind => exact wordOfAddress_eq (Fin.ext kind) rfl
  next kind => exact wordOfAddress_eq (Fin.ext kind) rfl
  next kind => exact wordOfByte_eq (Fin.ext kind) rfl
  next kind => exact wordOfByte_eq (Fin.ext kind) rfl
  next kind =>
    split
    next digit => exact nibbles_eq (Fin.ext kind) digit
    next => rfl
  next kind => exact wordOfByte_eq (Fin.ext kind) rfl
  next kind => exact wordOfByte_eq (Fin.ext kind) rfl
  next kind => exact encode_decodeArithmetic (Fin.ext kind)
  next kind =>
    split
    next digit => exact nibbles_eq (Fin.ext kind) digit
    next => rfl
  next kind => exact wordOfAddress_eq (Fin.ext kind) rfl
  next kind => exact wordOfAddress_eq (Fin.ext kind) rfl
  next kind => exact wordOfByte_eq (Fin.ext kind) rfl
  next kind => exact nibbles_eq (Fin.ext kind) rfl
  next kind => exact encode_decodeKey (Fin.ext kind)
  next =>
    have kind : word.kind.val = 15 := by
      simp only [imp_false] at *
      omega
    exact encode_decodeMiscellaneous (Fin.ext kind)

end Chip8.Instruction
