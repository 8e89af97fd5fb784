import Chip8.Instruction.Spelling
import Chip8.Proofs.Table
import Mathlib.Data.Fintype.Basic
import Mathlib.Tactic.FinCases

namespace Chip8.Opcode

variable {x y n : Nibble}

theorem digits_eq {a b : Nibble} (same : 16 * y.val + n.val = 16 * a.val + b.val) :
    y = a ∧ n = b :=
  ⟨Fin.ext (by omega), Fin.ext (by omega)⟩

theorem row_system (notClear : 256 * x.val + (16 * y.val + n.val) ≠ 0x0E0)
    (notRet : 256 * x.val + (16 * y.val + n.val) ≠ 0x0EE) :
    (⟨0, x, y, n⟩ : Opcode).row = table[2]? := by
  have first : ¬ (Pattern.of '0' '0' 'E' '0').fits ⟨0, x, y, n⟩ = true := by
    simp [Pattern.of, Pattern.digit, Pattern.fits, Fin.ext_iff]
    omega
  have second : ¬ (Pattern.of '0' '0' 'E' 'E').fits ⟨0, x, y, n⟩ = true := by
    simp [Pattern.of, Pattern.digit, Pattern.fits, Fin.ext_iff]
    omega
  -- The two words have rows of their own, which come before the row of the class.
  have passed {row : Row} {rows : List Row} (misfit : ¬ row.pattern.fits ⟨0, x, y, n⟩ = true) :
      (row :: rows).find? (·.pattern.fits ⟨0, x, y, n⟩) =
        rows.find? (·.pattern.fits ⟨0, x, y, n⟩) := List.find?_cons_of_neg misfit
  exact (passed first).trans ((passed second).trans rfl)

theorem row_key (pressed : 16 * y.val + n.val ≠ 0x9E) (released : 16 * y.val + n.val ≠ 0xA1) :
    (⟨0xE, x, y, n⟩ : Opcode).row = none := by
  simp only [row, table, Pattern.of, Pattern.digit, Pattern.fits]
  simp [Fin.ext_iff]
  omega

theorem row_miscellaneous
    (other : 16 * y.val + n.val ∉ [0x07, 0x0A, 0x15, 0x18, 0x1E, 0x29, 0x33, 0x55, 0x65]) :
    (⟨0xF, x, y, n⟩ : Opcode).row = none := by
  simp only [row, table, Pattern.of, Pattern.digit, Pattern.fits]
  simp [Fin.ext_iff] at other ⊢
  omega

theorem row_of_unmapped {word : Opcode} (unmapped : Instruction.decode word = .unmapped word) :
    word.row = none := by
  obtain ⟨kind, x, y, n⟩ := word
  fin_cases kind
  case «0» =>
    change Instruction.decodeSystem ⟨0, x, y, n⟩ = _ at unmapped
    unfold Instruction.decodeSystem at unmapped
    split at unmapped
    · cases unmapped
    · split at unmapped <;> cases unmapped
  case «5» | «8» | «9» =>
    fin_cases n
    all_goals first | rfl | cases unmapped
  case «14» =>
    replace unmapped := (Instruction.decode_key x y n).symm.trans unmapped
    unfold Instruction.decodeKey at unmapped
    split at unmapped
    · cases unmapped
    · cases unmapped
    · rename_i pressed released
      exact row_key pressed released
  case «15» =>
    replace unmapped := (Instruction.decode_miscellaneous x y n).symm.trans unmapped
    unfold Instruction.decodeMiscellaneous at unmapped
    split at unmapped
    case h_10 =>
      apply row_miscellaneous
      simp_all
    all_goals cases unmapped
  all_goals cases unmapped

theorem decode_of_rowless {word : Opcode} (rowless : word.row = none) :
    Instruction.decode word = .unmapped word := by
  have spelled := Instruction.encode_decode word
  cases decoded : Instruction.decode word with
  | unmapped other =>
    rw [decoded] at spelled
    exact congrArg Instruction.unmapped spelled
  | sys target =>
    rw [decoded] at spelled
    subst spelled
    have misfit := List.find?_eq_none.1 rowless table[2] (List.getElem_mem _)
    exact absurd rfl misfit
  | _ =>
    rw [decoded] at spelled
    subst spelled
    cases rowless

end Chip8.Opcode
