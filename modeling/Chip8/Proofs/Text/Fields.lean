import Chip8.Text.Fields
import Mathlib.Data.List.Basic

namespace Chip8.Text

variable {chars field rest : List Char}

theorem splitCommas_of_comma (whole : ',' ∉ field) :
    splitCommas (field ++ ',' :: rest) = field :: splitCommas rest := by
  induction field with
  | nil => rfl
  | cons c field ih =>
    rw [List.mem_cons, not_or] at whole
    simp only [List.cons_append, splitCommas, if_neg (Ne.symm whole.1), ih whole.2]

theorem splitCommas_of_whole (whole : ',' ∉ chars) : splitCommas chars = [chars] := by
  induction chars with
  | nil => rfl
  | cons c chars ih =>
    rw [List.mem_cons, not_or] at whole
    simp only [splitCommas, if_neg (Ne.symm whole.1), ih whole.2]

theorem splitCommas_intercalate {fields : List (List Char)} (filled : fields ≠ [])
    (whole : ∀ field ∈ fields, ',' ∉ field) : splitCommas ([','].intercalate fields) = fields := by
  induction fields with
  | nil => exact absurd rfl filled
  | cons field fields ih =>
    have first := whole field (.head _)
    cases fields with
    | nil =>
      rw [List.intercalate_singleton]
      exact splitCommas_of_whole first
    | cons next fields =>
      have others : ∀ other ∈ next :: fields, ',' ∉ other :=
        fun other member => whole other (.tail _ member)
      rw [List.intercalate_cons_cons, List.append_assoc, List.singleton_append,
        splitCommas_of_comma first, ih (List.cons_ne_nil _ _) others]

theorem intercalate_splitCommas (chars : List Char) :
    [','].intercalate (splitCommas chars) = chars := by
  induction chars with
  | nil => rfl
  | cons c rest ih =>
    unfold splitCommas
    cases cut : splitCommas rest with
    | nil => exact absurd cut (splitCommas_ne_nil rest)
    | cons field fields =>
      rw [cut] at ih
      split
      · rename_i comma
        rw [List.intercalate_cons_cons, ih, comma]
        rfl
      · cases fields with
        | nil =>
          rw [List.intercalate_singleton] at ih ⊢
          rw [ih]
        | cons next fields =>
          rw [List.intercalate_cons_cons] at ih ⊢
          rw [List.cons_append, List.cons_append, ih]

theorem not_mem_splitCommas (chars : List Char) : ∀ field ∈ splitCommas chars, ',' ∉ field := by
  induction chars with
  | nil => simp [splitCommas]
  | cons c rest ih =>
    unfold splitCommas
    split
    · simpa using ih
    · rename_i other
      cases cut : splitCommas rest with
      | nil => exact absurd cut (splitCommas_ne_nil rest)
      | cons field fields =>
        rw [cut] at ih
        intro first member
        rcases List.mem_cons.1 member with rfl | later
        · rw [List.mem_cons, not_or]
          exact ⟨Ne.symm other, ih field (.head _)⟩
        · exact ih first (.tail _ later)

theorem splitCommas_eq_iff {fields : List (List Char)} :
    splitCommas chars = fields ↔
      fields ≠ [] ∧ (∀ field ∈ fields, ',' ∉ field) ∧ [','].intercalate fields = chars := by
  constructor
  · rintro rfl
    exact ⟨splitCommas_ne_nil chars, not_mem_splitCommas chars, intercalate_splitCommas chars⟩
  · rintro ⟨filled, whole, rfl⟩
    exact splitCommas_intercalate filled whole

theorem fields_eq_iff {text : String} {parts : List String} :
    fields text = parts ↔
      parts ≠ [] ∧ (∀ part ∈ parts, ',' ∉ part.toList) ∧ ",".intercalate parts = text := by
  have lists : fields text = parts ↔ splitCommas text.toList = parts.map String.toList := by
    unfold fields
    constructor
    · rintro rfl
      simp [List.map_map]
    · intro cut
      simp [cut, List.map_map]
  rw [lists, splitCommas_eq_iff, ← String.toList_inj, String.toList_intercalate]
  simp

end Chip8.Text
