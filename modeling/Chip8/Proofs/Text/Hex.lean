import Chip8.Text.Hex
import Chip8.Text.Numeral
import Mathlib.Tactic.Common

namespace Chip8.Text

def hexValue (digits : List Char) : Nat :=
  digits.foldl (fun value c => 16 * value + (Numeral.digitValue? 16 c).getD 0) 0

theorem digitValue?_hexDigit (value : Nat) :
    Numeral.digitValue? 16 (hexDigit value) = some (value % 16) := by
  have small : ∀ digit : Fin 16, Numeral.digitValue? 16 (hexDigit digit) = some digit.val := by
    decide
  have reduced : hexDigit value = hexDigit (value % 16) := by
    unfold hexDigit
    rw [Nat.mod_mod]
  rw [reduced]
  exact small ⟨value % 16, Nat.mod_lt _ (by decide)⟩

theorem hexValue_concat (digits : List Char) (value : Nat) :
    hexValue (digits ++ [hexDigit value]) = 16 * hexValue digits + value % 16 := by
  simp [hexValue, List.foldl_append, digitValue?_hexDigit]

theorem hexValue_hexDigits (value : Nat) : hexValue (hexDigits value) = value := by
  induction value using hexDigits.induct with
  | case1 value small =>
    unfold hexDigits
    rw [if_pos small]
    refine (hexValue_concat [] value).trans ?_
    rw [Nat.mod_eq_of_lt small]
    exact Nat.zero_add value
  | case2 value large ih =>
    unfold hexDigits
    rw [if_neg large, hexValue_concat, ih]
    omega

theorem hexValue_zeroFilled (width : Nat) (digits : List Char) :
    hexValue (zeroFilled width digits) = hexValue digits := by
  unfold zeroFilled
  generalize width - digits.length = zeros
  induction zeros with
  | zero => rfl
  | succ zeros ih => exact ih

theorem hexField_eq (width value : Nat) :
    hexField width value = zeroFilled width (hexDigits value) := by
  have positive : ¬ (value : Int) < 0 := by omega
  simp only [hexField, positive, ↓reduceIte, Int.natAbs_natCast]

theorem hexValue_hexField (width value : Nat) : hexValue (hexField width value) = value := by
  rw [hexField_eq, hexValue_zeroFilled, hexValue_hexDigits]

theorem toList_hex (width : Nat) (value : Int) : (hex width value).toList = hexField width value :=
  String.toList_ofList

end Chip8.Text
