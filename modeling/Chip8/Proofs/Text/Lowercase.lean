import Chip8.Text.Lowercase
import Mathlib.Data.List.Basic

namespace Chip8.Text

def CaseRun.has (run : CaseRun) (code : Nat) : Bool :=
  run.first ≤ code && code ≤ run.last && (code - run.first) % run.step == 0

/-- Enough for the letters of one run to have lower-case forms that are not letters of another:
these lie before them or behind them, or in the gaps between them. -/
def CaseRun.misses (run other : CaseRun) : Bool :=
  Nat.ble (run.last + run.distance).toNat.succ other.first ||
    Nat.ble other.last.succ (run.first + run.distance).toNat ||
    (Nat.beq other.step 2 && (Nat.beq run.step 2 || Nat.beq run.first run.last) &&
      Nat.beq (((run.first + run.distance).toNat - other.first) % 2) 1)

theorem CaseRun.not_has_of_misses {run other : CaseRun} (apart : run.misses other = true)
    {code : Nat} (letter : run.has code = true) :
    other.has ((code : Int) + run.distance).toNat = false := by
  obtain ⟨first, last, step, distance⟩ := run
  obtain ⟨first', last', step', distance'⟩ := other
  simp only [misses, has, Bool.or_eq_true, Bool.and_eq_true, Nat.ble_eq, Nat.beq_eq,
    decide_eq_true_eq, beq_iff_eq, Bool.eq_false_iff, ne_eq, not_and] at apart letter ⊢
  obtain ⟨⟨early, late⟩, regular⟩ := letter
  rcases apart with (before | behind) | ⟨⟨rfl, rfl | rfl⟩, odd⟩
  all_goals omega

def ownWays : List CaseRun :=
  [⟨0x130, 0x130, 1, 0⟩, ⟨0x3A3, 0x3A3, 1, 0⟩]

theorem lowerRuns_miss :
    (lowerRuns.all fun run => (ownWays ++ lowerRuns).all run.misses) = true := by
  decide +kernel

def Settled (c : Char) : Prop :=
  c ≠ capitalSigma ∧ lowerChar c = [c]

instance (c : Char) : Decidable (Settled c) :=
  inferInstanceAs (Decidable (_ ∧ _))

theorem settled_of_not_has {c : Char}
    (uncovered : ∀ run ∈ ownWays ++ lowerRuns, run.has c.toNat = false) : Settled c := by
  have dotted : c ≠ dottedCapitalI := by
    rintro rfl
    exact absurd (uncovered _ (.head _)) (by decide)
  have sigma : c ≠ capitalSigma := by
    rintro rfl
    exact absurd (uncovered _ (.tail _ (.head _))) (by decide)
  have unfound : lowerRuns.find? (·.covers c) = none := by
    rw [List.find?_eq_none]
    intro run member
    rw [Bool.not_eq_true]
    exact uncovered run (List.mem_append_right _ member)
  refine ⟨sigma, ?_⟩
  unfold lowerChar
  rw [if_neg dotted, unfound]

theorem toNat_ofNat {code : Nat} (valid : code.isValidChar) : (Char.ofNat code).toNat = code := by
  unfold Char.ofNat
  rw [dif_pos valid]
  rfl

theorem settled_of_run {run : CaseRun} (member : run ∈ lowerRuns) {c : Char}
    (letter : run.covers c = true) : Settled (Char.ofNat (c.toNat + run.distance).toNat) := by
  by_cases valid : ((c.toNat : Int) + run.distance).toNat.isValidChar
  · refine settled_of_not_has fun other also => ?_
    have apart := List.all_eq_true.1 (List.all_eq_true.1 lowerRuns_miss run member) other also
    rw [toNat_ofNat valid]
    exact CaseRun.not_has_of_misses apart letter
  · unfold Char.ofNat
    rw [dif_neg valid]
    decide +kernel

theorem lower_of_one {text : String} {c : Char} (one : text.toList = [c])
    (other : c ≠ capitalSigma) :
    lower text = String.ofList (lowerChar c) := by
  simp only [lower, one, lowerAfter, if_neg other, List.append_nil]

theorem lower_of_settled {c : Char} (settled : Settled c) :
    lower (String.ofList [c]) = String.ofList [c] := by
  rw [lower_of_one String.toList_ofList settled.1, settled.2]

theorem lower_lower_singleton (c : Char) :
    lower (lower (String.singleton c)) = lower (String.singleton c) := by
  by_cases sigma : c = capitalSigma
  · rw [sigma]
    decide +kernel
  by_cases dotted : c = dottedCapitalI
  · rw [dotted]
    decide +kernel
  rw [lower_of_one (String.toList_singleton c) sigma]
  cases found : lowerRuns.find? (·.covers c) with
  | none =>
    have kept : lowerChar c = [c] := by
      unfold lowerChar
      rw [if_neg dotted, found]
    rw [kept]
    exact lower_of_settled ⟨sigma, kept⟩
  | some run =>
    have lowered : lowerChar c = [Char.ofNat (c.toNat + run.distance).toNat] := by
      unfold lowerChar
      rw [if_neg dotted, found]
    have letter := List.find?_some found
    rw [lowered]
    exact lower_of_settled (settled_of_run (List.mem_of_find?_eq_some found) letter)

end Chip8.Text
