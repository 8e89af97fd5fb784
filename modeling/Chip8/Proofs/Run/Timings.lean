import Chip8.Pacing
import Mathlib.Algebra.Order.Field.Rat
import Mathlib.Data.List.Basic
import Mathlib.Tactic.Linarith
import Mathlib.Tactic.Ring

namespace Chip8

inductive Timing where
  | read (time : ℚ)
  | slept (rest : ℚ)
deriving DecidableEq

abbrev Timings := List Timing

namespace Timing

def time? : Timing → Option ℚ
  | read time => some time
  | slept _ => none

end Timing

namespace Timings

def readings (timings : Timings) : List ℚ :=
  (timings.filterMap Timing.time?).reverse

/-- The reading at the top of a frame. A run reads its clock when it begins, and then twice for each
frame, at its top and after it. -/
def top? (timings : Timings) (k : Nat) : Option ℚ :=
  timings.readings[2 * k + 1]?

/-- What the clock has come to at least: the last reading, and what was slept since. -/
def reached? : Timings → Option ℚ
  | [] => none
  | .read time :: _ => some time
  | .slept rest :: timings => (reached? timings).map (· + rest)

/-- No reading is before the last one and what was slept since. -/
def Steady : Timings → Prop
  | [] => True
  | .read time :: timings => (∀ least ∈ reached? timings, least ≤ time) ∧ Steady timings
  | .slept _ :: timings => Steady timings

instance decidableSteady : (timings : Timings) → Decidable (Steady timings)
  | [] => inferInstanceAs (Decidable True)
  | .read time :: timings =>
    have := decidableSteady timings
    inferInstanceAs (Decidable ((∀ least ∈ reached? timings, least ≤ time) ∧ Steady timings))
  | .slept _ :: timings => decidableSteady timings

/-- No sleep is longer than a frame, no frame begins early, and frames are never closer together
than if one of them had been a whole interval late. -/
structure Punctual (interval : ℚ) (timings : Timings) : Prop where
  sleeps : ∀ rest, .slept rest ∈ timings → 0 < rest ∧ rest ≤ interval
  tops : ∀ first ∈ timings.readings.head?, ∀ k time, timings.top? k = some time →
    first + k * interval ≤ time
  apart : ∀ j n earlier later, timings.top? j = some earlier →
    timings.top? (j + n + 1) = some later → earlier + n * interval ≤ later

/-- A time that the frame after `n` others may be due at. -/
structure Due (interval : ℚ) (n : Nat) (due : ℚ) (timings : Timings) : Prop where
  tops : ∀ first ∈ timings.readings.head?, first + n * interval ≤ due
  apart : ∀ j earlier, timings.top? j = some earlier →
    earlier + n * interval ≤ due + (j + 1) * interval

structure Kept (interval : ℚ) (n : Nat) (due : ℚ) (timings : Timings) : Prop where
  readings : timings.readings.length = 2 * n + 1
  undrifted : ∀ first ∈ timings.readings.head?,
    (∀ k time, timings.top? k = some time → time ≤ first + k * interval + interval) →
      due = first + n * interval
  steady : timings.Steady → Punctual interval timings ∧ Due interval n due timings

structure Between (interval : ℚ) (n : Nat) (due : ℚ) (timings : Timings) : Prop
    extends Kept interval n due timings where
  reached : timings.Steady → ∃ least ∈ timings.reached?, due ≤ least

def dueNext (interval due began : ℚ) : ℚ :=
  max (due + interval) began

/-- What a turn adds to the timings, up to where it comes to an end, and when the next frame is due
if it does not. -/
inductive Added (interval due : ℚ) (timings : Timings) : Option ℚ → Timings → Prop where
  | nothing : Added interval due timings none timings
  | began (now : ℚ) : Added interval due timings none (.read now :: timings)
  | rested (now after : ℚ) (early : after < dueNext interval due now) :
      Added interval due timings (some (dueNext interval due now))
        (.slept (dueNext interval due now - after) :: .read after :: .read now :: timings)
  | hurried (now after : ℚ) (late : dueNext interval due now ≤ after) :
      Added interval due timings (some (dueNext interval due now))
        (.read after :: .read now :: timings)

variable {interval due time rest : ℚ} {timings later : Timings} {n k : Nat}

@[simp] theorem readings_read :
    readings (.read time :: timings) = timings.readings ++ [time] := by
  simp [readings, Timing.time?]

theorem top?_read : top? (.read time :: timings) k =
    if 2 * k + 1 = timings.readings.length then some time else timings.top? k := by
  unfold top?
  rw [readings_read, List.getElem?_append]
  split
  · rw [if_neg (by omega)]
  · split
    · rename_i last
      rw [last]
      simp
    · rename_i outside other
      have past : timings.readings[2 * k + 1]? = none := List.getElem?_eq_none (by omega)
      rw [past, List.getElem?_eq_none (by simp only [List.length_singleton]; omega)]

theorem head?_read (read : timings.readings ≠ []) :
    (readings (.read time :: timings)).head? = timings.readings.head? := by
  rw [readings_read, List.head?_append_of_ne_nil _ read]

theorem readings_ne_nil (odd : timings.readings.length = 2 * n + 1) : timings.readings ≠ [] := by
  intro empty
  rw [empty] at odd
  cases odd

theorem lt_of_top? (top : timings.top? k = some time) : 2 * k + 1 < timings.readings.length :=
  (List.getElem?_eq_some_iff.1 top).1

theorem top?_began (odd : timings.readings.length = 2 * n + 1) :
    top? (.read time :: timings) k = if k = n then some time else timings.top? k := by
  have same : 2 * k + 1 = 2 * n + 1 ↔ k = n := by omega
  rw [top?_read, odd]
  simp only [same]

theorem length_began (odd : timings.readings.length = 2 * n + 1) (now : ℚ) :
    (readings (.read now :: timings)).length = 2 * (n + 1) := by
  rw [readings_read, List.length_append, odd]
  rfl

theorem top?_turn (odd : timings.readings.length = 2 * n + 1) {now after : ℚ} :
    top? (.read after :: .read now :: timings) k = if k = n then some now else timings.top? k := by
  have even := length_began odd now
  rw [top?_read, if_neg (by omega), top?_began odd]

theorem head?_turn (odd : timings.readings.length = 2 * n + 1) {now after : ℚ} :
    (readings (.read after :: .read now :: timings)).head? = timings.readings.head? := by
  rw [head?_read (by simp), head?_read (readings_ne_nil odd)]

theorem punctual_nil : Punctual interval [] := ⟨nofun, nofun, nofun⟩

theorem between_start (interval time : ℚ) : Between interval 0 time [.read time] where
  readings := rfl
  undrifted := by
    rintro _ ⟨⟩ -
    simp
  steady _ := by
    refine ⟨⟨fun rest slept => ?_, nofun, nofun⟩, ?_, nofun⟩
    · simp at slept
    · rintro _ ⟨⟩
      simp
  reached _ := ⟨time, rfl, le_rfl⟩

namespace Punctual

theorem slept (punctual : Punctual interval timings) (positive : 0 < rest)
    (most : rest ≤ interval) :
    Punctual interval (.slept rest :: timings) where
  sleeps other member := by
    rcases List.mem_cons.1 member with same | earlier
    · cases same
      exact ⟨positive, most⟩
    · exact punctual.sleeps other earlier
  tops := punctual.tops
  apart := punctual.apart

theorem read (punctual : Punctual interval timings) (read : timings.readings ≠ [])
    (tops : ∀ first ∈ timings.readings.head?, ∀ k, 2 * k + 1 = timings.readings.length →
      first + k * interval ≤ time)
    (apart : ∀ j n earlier, 2 * (j + n + 1) + 1 = timings.readings.length →
      timings.top? j = some earlier → earlier + n * interval ≤ time) :
    Punctual interval (.read time :: timings) where
  sleeps rest member := by
    rcases List.mem_cons.1 member with other | earlier
    · cases other
    · exact punctual.sleeps rest earlier
  tops first isFirst k top begun := by
    rw [head?_read read] at isFirst
    rw [top?_read] at begun
    split at begun
    · rename_i last
      cases begun
      exact tops first isFirst k last
    · exact punctual.tops first isFirst k top begun
  apart j n earlier later before after := by
    rw [top?_read] at before after
    split at after
    · rename_i last
      cases after
      rw [if_neg (by omega)] at before
      exact apart j n earlier last before
    · have inside := lt_of_top? after
      rw [if_neg (by omega)] at before
      exact punctual.apart j n earlier later before after

end Punctual

theorem Between.due_le (between : Between interval n due timings)
    (steady : Steady (.read time :: timings)) : due ≤ time := by
  obtain ⟨least, reached, late⟩ := between.reached steady.2
  exact late.trans (steady.1 least reached)

theorem Between.began (between : Between interval n due timings)
    (steady : Steady (.read time :: timings)) : Punctual interval (.read time :: timings) := by
  have late := between.due_le steady
  have odd := between.readings
  obtain ⟨punctual, schedule⟩ := between.steady steady.2
  refine punctual.read (readings_ne_nil odd) ?_ ?_
  · intro first isFirst k last
    obtain rfl : k = n := by omega
    exact (schedule.tops first isFirst).trans late
  · intro j m earlier last before
    obtain rfl : j + m + 1 = n := by omega
    have spaced := schedule.apart j earlier before
    push_cast at spaced
    linarith

theorem Due.next (schedule : Due interval n due timings)
    (odd : timings.readings.length = 2 * n + 1) (now after : ℚ) :
    Due interval (n + 1) (dueNext interval due now) (.read after :: .read now :: timings) := by
  have regular : due + interval ≤ dueNext interval due now := le_max_left _ _
  have began : now ≤ dueNext interval due now := le_max_right _ _
  constructor
  · intro first isFirst
    rw [head?_turn odd] at isFirst
    have before := schedule.tops first isFirst
    push_cast
    linarith
  · intro j earlier top
    rw [top?_turn odd] at top
    split at top
    · rename_i last
      cases top
      rw [last]
      push_cast
      linarith
    · have before := schedule.apart j earlier top
      push_cast
      linarith

theorem Between.kept (between : Between interval n due timings) (now after : ℚ) :
    Kept interval (n + 1) (dueNext interval due now) (.read after :: .read now :: timings) := by
  have odd := between.readings
  have even := length_began odd now
  constructor
  · rw [readings_read, List.length_append, even]
    rfl
  · intro first isFirst onTime
    rw [head?_turn odd] at isFirst
    have early := onTime n now (by rw [top?_turn odd, if_pos rfl])
    have before (k : Nat) (time : ℚ) (top : timings.top? k = some time) :
        time ≤ first + k * interval + interval := by
      have inside := lt_of_top? top
      exact onTime k time (by rw [top?_turn odd, if_neg (by omega), top])
    have undrifted := between.undrifted first isFirst before
    unfold dueNext
    rw [undrifted, max_eq_left early]
    push_cast
    ring
  · rintro ⟨-, steady⟩
    have punctual := between.began steady
    have schedule := (between.steady steady.2).2
    -- The reading after the frame is at the top of none.
    exact ⟨punctual.read (by simp) (fun _ _ k last => by omega) (fun j m _ last => by omega),
      schedule.next odd now after⟩

theorem Between.rest_le (between : Between interval n due timings) {now after : ℚ}
    (steady : Steady (.read after :: .read now :: timings))
    (early : after < dueNext interval due now) :
    dueNext interval due now - after ≤ interval := by
  have late : due ≤ now := between.due_le steady.2
  have later : now ≤ after := steady.1 now rfl
  unfold dueNext at early ⊢
  rcases max_choice (due + interval) now with regular | delayed
  · rw [regular]
    linarith
  · rw [delayed] at early
    exact absurd early (not_lt.2 later)

theorem Kept.slept (kept : Kept interval n due timings)
    (bounds : timings.Steady → 0 < rest ∧ rest ≤ interval) :
    Kept interval n due (.slept rest :: timings) where
  readings := kept.readings
  undrifted := kept.undrifted
  steady steady := by
    obtain ⟨punctual, schedule⟩ := kept.steady steady
    obtain ⟨positive, most⟩ := bounds steady
    exact ⟨punctual.slept positive most, schedule.tops, schedule.apart⟩

theorem Between.added {next : Option ℚ} (between : Between interval n due timings)
    (added : Added interval due timings next later) :
    (later.Steady → Punctual interval later) ∧
      ∀ time ∈ next, Between interval (n + 1) time later := by
  cases added with
  | nothing => exact ⟨fun steady => (between.steady steady).1, nofun⟩
  | began now => exact ⟨between.began, nofun⟩
  | rested now after early =>
    have kept := (between.kept now after).slept fun steady =>
      ⟨sub_pos.2 early, between.rest_le steady early⟩
    refine ⟨fun steady => (kept.steady steady).1, ?_⟩
    rintro _ ⟨⟩
    exact ⟨kept, fun _ => ⟨_, rfl, (add_sub_cancel after _).ge⟩⟩
  | hurried now after late =>
    have kept := between.kept now after
    refine ⟨fun steady => (kept.steady steady).1, ?_⟩
    rintro _ ⟨⟩
    exact ⟨kept, fun _ => ⟨after, rfl, late⟩⟩

end Timings

end Chip8
