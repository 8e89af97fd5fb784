import Chip8.Run
import Mathlib.Data.List.Basic
import Mathlib.Data.List.TakeWhile

namespace Chip8

namespace Machine

theorem toList_toString (n : Int) : (toString n).toList =
    (if n < 0 then ['-'] else []) ++ Nat.toDigits 10 n.natAbs := by
  rw [Int.toString_eq_repr]
  cases n with
  | ofNat n => simp [Int.repr]
  | negSucc n => simp [Int.repr, Int.negSucc_lt_zero]

theorem isDigit_of_mem {n : Nat} {c : Char} (member : c ∈ Nat.toDigits 10 n) : c.isDigit = true :=
  Nat.isDigit_of_mem_toDigits (by decide) (by decide) member

theorem blank_notMem_toString (n : Int) : ' ' ∉ (toString n).toList := by
  rw [toList_toString]
  intro member
  rcases List.mem_append.1 member with sign | digit
  · split at sign <;> simp at sign
  · exact absurd (isDigit_of_mem digit) (by decide)

theorem toString_inj {a b : Int} (same : toString a = toString b) : a = b := by
  have chars := congrArg String.toList same
  rw [toList_toString, toList_toString] at chars
  have unsigned (n : Nat) (tail : List Char) : Nat.toDigits 10 n ≠ '-' :: tail := by
    intro signed
    have member : '-' ∈ Nat.toDigits 10 n := by rw [signed]; exact List.mem_cons_self
    exact absurd (isDigit_of_mem member) (by decide)
  have read {m n : Nat} (digits : Nat.toDigits 10 m = Nat.toDigits 10 n) : m = n := by
    simpa using congrArg (Nat.ofDigitChars 10 · 0) digits
  split at chars <;> split at chars
  · have size := read (List.cons.inj chars).2
    omega
  · exact absurd chars.symm (unsigned _ _)
  · exact absurd chars (unsigned _ _)
  · have size := read chars
    omega

theorem eq_of_cut {c : Char} {left left' right right' : List Char} (free : c ∉ left)
    (free' : c ∉ left') (same : left ++ c :: right = left' ++ c :: right') :
    left = left' ∧ right = right' := by
  have whole {l : List Char} (free : c ∉ l) (r : List Char) :
      (l ++ c :: r).takeWhile (· ≠ c) = l := by
    rw [List.takeWhile_append_of_pos fun x member => ?_]
    · simp
    · exact decide_eq_true fun same : x = c => free (same ▸ member)
  have cut := congrArg (List.takeWhile (· ≠ c)) same
  rw [whole free, whole free'] at cut
  exact ⟨cut, by simpa [cut] using same⟩

/-- The text of a report tells both its numbers. -/
theorem speedTitle_inj {frames frames' steps steps' : Int} :
    speedTitle frames steps = speedTitle frames' steps' ↔ frames = frames' ∧ steps = steps' := by
  constructor
  · intro same
    have chars := congrArg String.toList same
    unfold speedTitle at chars
    simp only [String.toList_append, List.append_assoc] at chars
    have numbers := List.append_cancel_left (List.append_cancel_left chars)
    obtain ⟨first, rest⟩ := eq_of_cut (blank_notMem_toString _) (blank_notMem_toString _) numbers
    have behind := @List.append_cancel_left _ "FPS, ".toList _ _ rest
    obtain ⟨second, -⟩ := eq_of_cut (blank_notMem_toString _) (blank_notMem_toString _) behind
    exact ⟨toString_inj (String.toList_inj.1 first), toString_inj (String.toList_inj.1 second)⟩
  · rintro ⟨rfl, rfl⟩
    rfl

theorem reports_inj {reports others : List (Nat × Int)}
    (same : reports.map (fun report => speedTitle report.1 report.2) =
      others.map (fun report => speedTitle report.1 report.2)) : reports = others := by
  refine List.map_injective_iff.2 (fun report other read => ?_) same
  obtain ⟨frames, steps⟩ := speedTitle_inj.1 read
  exact Prod.ext (Int.natCast_inj.1 frames) steps

end Machine

end Chip8
