import Chip8.Proofs.Run.Course
import Chip8.Proofs.Run.Titles
import Mathlib.Algebra.Order.Ring.Int
import Mathlib.Data.List.Chain

namespace Chip8

inductive Event where
  | read
  | slept
  | looked
  | sounded
  | shown (picture : Array UInt8)
  | titled (text : String)
deriving DecidableEq, Repr

namespace Event

def ofFrames : Event → Bool
  | looked | sounded | shown _ => true
  | read | slept | titled _ => false

def picture? : Event → Option (Array UInt8)
  | shown picture => some picture
  | _ => none

def title? : Event → Option String
  | titled text => some text
  | _ => none

/-- What a frame sounds and shows comes right after the look at the keys, a tone before the
picture. -/
def Follows (earlier later : Event) : Prop :=
  (later = sounded → earlier = looked) ∧
  ((∃ picture, later = shown picture) → earlier = looked ∨ earlier = sounded)

end Event

abbrev Diary := List Event

/-- What happens around a run, told beforehand. -/
structure Bench (τ : Type) where
  /-- The readings of the clock in turn, or the faults they fail with. -/
  reading : Nat → Except Fault τ
  sleep : Nat → Except Fault Unit
  keys : Nat → Latch → Latch
  /-- The number of looks before the one that asks to quit. -/
  patience : Option Nat

namespace Bench

variable {τ : Type}

def told {α : Type} (event : Event) (answer : Except Fault α) : EStateM Fault Diary α :=
  fun diary =>
  match answer with
  | .ok value => .ok value (diary ++ [event])
  | .error fault => .error fault (diary ++ [event])

def host (bench : Bench τ) : Host τ Diary where
  now diary := told .read (bench.reading (diary.count .read)) diary
  sleep _ diary := told .slept (bench.sleep (diary.count .slept)) diary
  poll keypad diary :=
    .ok (bench.patience == some (diary.count .looked),
      { keypad with latch := bench.keys (diary.count .looked) keypad.latch }) (diary ++ [.looked])
  present picture := told (.shown picture) (.ok ())
  title text := told (.titled text) (.ok ())
  tone := told .sounded (.ok ())

/-- The last event is one of the clock, and it failed. -/
def Refused (bench : Bench τ) (fault : Fault) (diary : Diary) : Prop :=
  ∃ earlier, (diary = earlier ++ [.read] ∧ bench.reading (earlier.count .read) = .error fault) ∨
    (diary = earlier ++ [.slept] ∧ bench.sleep (earlier.count .slept) = .error fault)

/-- The most frames that a run may have: those asked for, or those before the host asks to quit. -/
def frames (bench : Bench τ) (maxFrames : Option Int) : Option Nat :=
  Option.merge min (maxFrames.map Int.toNat) bench.patience

structure Timely (bench : Bench τ) : Prop where
  reads : ∀ k, ∃ time, bench.reading k = .ok time
  sleeps : ∀ k, bench.sleep k = .ok ()

variable {α : Type} {event : Event} {answer : Except Fault α} {diary later : Diary} {fault : Fault}

theorem told_eq_ok {value : α} (done : told event answer diary = .ok value later) :
    answer = .ok value ∧ later = diary ++ [event] := by
  cases answer with
  | ok told =>
    cases done
    exact ⟨rfl, rfl⟩
  | error fault => cases done

theorem told_eq_error (failed : told event answer diary = .error fault later) :
    answer = .error fault ∧ later = diary ++ [event] := by
  cases answer with
  | ok value => cases failed
  | error cause =>
    cases failed
    exact ⟨rfl, rfl⟩

variable {bench : Bench τ} {rest : τ}

theorem refused_of_now (failed : bench.host.now diary = .error fault later) :
    bench.Refused fault later :=
  have told := told_eq_error failed
  ⟨diary, .inl ⟨told.2, told.1⟩⟩

theorem refused_of_sleep (failed : bench.host.sleep rest diary = .error fault later) :
    bench.Refused fault later :=
  have told := told_eq_error failed
  ⟨diary, .inr ⟨told.2, told.1⟩⟩

theorem Timely.not_refused (timely : bench.Timely) : ¬ bench.Refused fault diary := by
  rintro ⟨earlier, ⟨-, failed⟩ | ⟨-, failed⟩⟩
  · obtain ⟨time, read⟩ := timely.reads (earlier.count .read)
    cases read.symm.trans failed
  · cases (timely.sleeps (earlier.count .slept)).symm.trans failed

theorem le_frames_iff {maxFrames : Option Int} {n : Nat} :
    (∀ most ∈ bench.frames maxFrames, n ≤ most) ↔
      (∀ most ∈ maxFrames.map Int.toNat, n ≤ most) ∧ ∀ most ∈ bench.patience, n ≤ most := by
  unfold frames
  cases maxFrames.map Int.toNat with
  | none => simp
  | some limit =>
    cases bench.patience with
    | none => simp
    | some patience =>
      simp only [Option.merge, Option.mem_def, Option.some.injEq, forall_eq', Nat.le_min]

end Bench

namespace Machine

variable {τ : Type} (bench : Bench τ) (s : Machine × Diary)

def glanced : Machine × Diary :=
  ({ s.1 with keypad := { s.1.keypad with
    latch := bench.keys (s.2.count .looked) s.1.keypad.latch } }, s.2 ++ [.looked])

def reported : Machine × Diary :=
  ({ s.1 with reportFrames := 0, reportSteps := 0 },
    s.2 ++ [.titled (speedTitle s.1.reportFrames s.1.reportSteps)])

def tones (m : Machine) : Diary :=
  if m.timers.toneDue then [.sounded] else []

def framed (m : Machine) (diary : Diary) : Machine × Diary :=
  (countFrame { m with timers := m.timers.tick }, diary ++ m.tones ++ [.shown m.screen.frame])

theorem tones_cases (m : Machine) : m.tones = [] ∨ m.tones = [.sounded] := by
  unfold tones
  cases m.timers.toneDue with
  | false => exact .inl rfl
  | true => exact .inr rfl

@[simp] theorem looks_tones (m : Machine) : m.tones.count .looked = 0 := by
  rcases m.tones_cases with silent | loud
  · rw [silent]
    rfl
  · rw [loud]
    rfl

@[simp] theorem title_tones (m : Machine) : m.tones.filterMap Event.title? = [] := by
  rcases m.tones_cases with silent | loud
  · rw [silent]
    rfl
  · rw [loud]
    rfl

@[simp] theorem picture_tones (m : Machine) : m.tones.filterMap Event.picture? = [] := by
  rcases m.tones_cases with silent | loud
  · rw [silent]
    rfl
  · rw [loud]
    rfl

theorem pollHost_eq : pollHost bench.host s =
    .ok (bench.patience == some (s.2.count .looked)) (glanced bench s) := rfl

theorem report_eq : report bench.host s = .ok () (reported s) := rfl

theorem tick_eq : tick bench.host s =
    .ok () ({ s.1 with timers := s.1.timers.tick }, s.2 ++ s.1.tones) := by
  change (if s.1.timers.toneDue then Session.host bench.host.tone else pure ())
    ({ s.1 with timers := s.1.timers.tick }, s.2) = _
  unfold tones
  cases s.1.timers.toneDue with
  | false =>
    simp only [Bool.false_eq_true, if_false, List.append_nil]
    rfl
  | true => rfl

variable {bench s} {m : Machine} {fault : Fault}

theorem frame_of_steps (done : frameSteps s.1 = .ok () m) :
    frame bench.host s = .ok () (framed m s.2) := by
  change (Session.machine frameSteps >>= fun _ => do
    tick bench.host
    refresh bench.host
    Session.machine (modify countFrame)) s = _
  rw [bind_of_ok (Session.machine_of_ok done), bind_of_ok (tick_eq bench (m, s.2))]
  rfl

variable {t : Machine × Diary}

theorem steps_of_frame (done : frame bench.host s = .ok () t) :
    ∃ m, frameSteps s.1 = .ok () m ∧ t = framed m s.2 := by
  cases stepped : frameSteps s.1 with
  | ok value m =>
    cases (frame_of_steps stepped).symm.trans done
    exact ⟨m, rfl, rfl⟩
  | error fault m => cases (frame_of_failed stepped).symm.trans done

theorem failed_of_frame (failed : frame bench.host s = .error fault t) :
    ∃ m, frameSteps s.1 = .error fault m ∧ t = (m, s.2) := by
  cases stepped : frameSteps s.1 with
  | ok value m => cases (frame_of_steps stepped).symm.trans failed
  | error cause m =>
    cases (frame_of_failed stepped).symm.trans failed
    exact ⟨m, rfl, rfl⟩

theorem beforeFrame_eq [Add τ] [LE τ] [DecidableLE τ] (bench : Bench τ) (tempo : Tempo τ)
    (pacing : Pacing τ) (now : τ) (s : Machine × Diary) :
    ∃ r next, (r = s ∨ r = reported s) ∧ beforeFrame bench.host tempo pacing now s =
      .ok (bench.patience == some (r.2.count .looked), next) (glanced bench r) := by
  cases due : pacing.reportDue now with
  | false =>
    refine ⟨s, pacing, .inl rfl, ?_⟩
    unfold beforeFrame
    simp only [due]
    exact bind_of_ok (pollHost_eq bench s)
  | true =>
    refine ⟨reported s, pacing.reported tempo now, .inr rfl, ?_⟩
    unfold beforeFrame
    simp only [due, if_true]
    rw [bind_of_ok (report_eq bench s), bind_of_ok (pollHost_eq bench (reported s))]
    rfl

def ledger (m : Machine) : Settings × Nat × Nat × Int :=
  (m.settings, m.frames, m.reportFrames, m.reportSteps)

theorem ledger_stepInvariant (given : Settings × Nat × Nat × Int) :
    StepInvariant fun m => m.ledger = given where
  registers h _ := h
  jump h _ _ := h
  index h _ _ := h
  darken h := h
  draw h _ _ _ := h
  time h _ := h
  noise h := h
  store h _ := h
  park h _ _ := h
  call h _ := h
  ret h _ := h
  fetch h := h
  print h _ := h

theorem ledger_frameSteps (m : Machine) : (stateAfter frameSteps m).ledger = m.ledger := by
  have step : Keeps (fun next => next.ledger = m.ledger) step :=
    fun _ h => (ledger_stepInvariant m.ledger).step h
  exact keeps_steps step m.settings.stepsPerFrame.toNat m rfl

theorem ledger_of_steps {m next : Machine} (done : frameSteps m = .ok () next) :
    next.ledger = m.ledger := by
  have kept := ledger_frameSteps m
  rwa [stateAfter_of_ok done] at kept

variable {n : Nat} {u : Machine × Diary} {event : Event}

/-- What the diary and the counts of a machine `m` tell after `n` frames. -/
structure Books (m : Machine) (n : Nat) (s : Machine × Diary) : Prop where
  follows : s.2.IsChain Event.Follows
  settings : s.1.settings = m.settings
  /-- The frames and the steps of all reports, and those still to be reported, are those that were
  to be reported before and those of the frames since. -/
  reports : ∃ reports : List (Nat × Int),
    s.2.filterMap Event.title? = reports.map (fun report => speedTitle report.1 report.2) ∧
    (reports.map Prod.fst).sum + s.1.reportFrames = m.reportFrames + n ∧
    (reports.map Prod.snd).sum + s.1.reportSteps = m.reportSteps + n * m.settings.stepsPerFrame

theorem Books.legible (books : Books m n s) {reports : List (Nat × Int)}
    (titles : s.2.filterMap Event.title? =
      reports.map fun report => speedTitle report.1 report.2) :
    (reports.map Prod.fst).sum + s.1.reportFrames = m.reportFrames + n ∧
      (reports.map Prod.snd).sum + s.1.reportSteps =
        m.reportSteps + n * m.settings.stepsPerFrame := by
  obtain ⟨told, same, counts⟩ := books.reports
  rw [reports_inj (titles.symm.trans same)]
  exact counts

theorem chain_append {diary : Diary} (chain : diary.IsChain Event.Follows)
    (free : ∀ earlier, Event.Follows earlier event) : (diary ++ [event]).IsChain Event.Follows := by
  refine List.isChain_append.2 ⟨chain, .singleton event, ?_⟩
  intro earlier _ later last
  cases last
  exact free earlier

theorem chain_after {earlier : Diary} {last : Event}
    (chain : (earlier ++ [last]).IsChain Event.Follows) (follows : Event.Follows last event) :
    (earlier ++ [last] ++ [event]).IsChain Event.Follows := by
  refine List.isChain_append.2 ⟨chain, .singleton event, ?_⟩
  intro previous isLast later isLater
  cases isLater
  rw [List.getLast?_concat] at isLast
  cases isLast
  exact follows

theorem books_start (m : Machine) : Books m 0 (m, []) where
  follows := .nil
  settings := rfl
  reports := ⟨[], rfl, by simp, by simp⟩

theorem Books.kept (books : Books m n s) (kept : u.1.ledger = s.1.ledger) (diary : u.2 = s.2) :
    Books m n u where
  follows := by
    rw [diary]
    exact books.follows
  settings := (congrArg Prod.fst kept).trans books.settings
  reports := by
    have frames : u.1.reportFrames = s.1.reportFrames := congrArg (fun l => l.2.2.1) kept
    have steps : u.1.reportSteps = s.1.reportSteps := congrArg (fun l => l.2.2.2) kept
    rw [diary, frames, steps]
    exact books.reports

theorem Books.note (books : Books m n s) (free : ∀ earlier, Event.Follows earlier event)
    (untitled : event.title? = none) : Books m n (s.1, s.2 ++ [event]) where
  follows := chain_append books.follows free
  settings := books.settings
  reports := by
    obtain ⟨reports, titles, counts⟩ := books.reports
    refine ⟨reports, ?_, counts⟩
    rw [List.filterMap_append, titles]
    simp [untitled]

theorem Books.reported (books : Books m n s) : Books m n (reported s) where
  follows := chain_append books.follows fun _ => ⟨nofun, nofun⟩
  settings := books.settings
  reports := by
    obtain ⟨reports, titles, frames, steps⟩ := books.reports
    refine ⟨reports ++ [(s.1.reportFrames, s.1.reportSteps)], ?_, ?_, ?_⟩
    · simp [Machine.reported, titles, Event.title?]
    · simp [Machine.reported, frames]
    · simp [Machine.reported, steps]

theorem Books.framed {next : Machine} {earlier : Diary} (books : Books m n s)
    (glanced : s.2 = earlier ++ [.looked]) (done : frameSteps s.1 = .ok () next) :
    Books m (n + 1) (framed next s.2) where
  follows := by
    have sounds : Event.Follows .looked .sounded := ⟨fun _ => rfl, nofun⟩
    have shows (picture : Array UInt8) : Event.Follows .looked (.shown picture) :=
      ⟨nofun, fun _ => .inl rfl⟩
    have showsLate (picture : Array UInt8) : Event.Follows .sounded (.shown picture) :=
      ⟨nofun, fun _ => .inr rfl⟩
    have before := books.follows
    change (s.2 ++ next.tones ++ [Event.shown next.screen.frame]).IsChain Event.Follows
    rw [glanced] at before ⊢
    -- A tone, if there is one, comes between the look and the picture.
    rcases next.tones_cases with silent | loud
    · rw [silent, List.append_nil]
      exact chain_after before (shows _)
    · rw [loud]
      exact chain_after (chain_after before sounds) (showsLate _)
  settings := (congrArg Prod.fst (ledger_of_steps done)).trans books.settings
  reports := by
    obtain ⟨reports, titles, frames, steps⟩ := books.reports
    have kept := ledger_of_steps done
    have settings : next.settings = s.1.settings := congrArg Prod.fst kept
    have sameFrames : next.reportFrames = s.1.reportFrames := congrArg (fun l => l.2.2.1) kept
    have sameSteps : next.reportSteps = s.1.reportSteps := congrArg (fun l => l.2.2.2) kept
    refine ⟨reports, ?_, ?_, ?_⟩
    · simp only [Machine.framed, List.filterMap_append, titles, next.title_tones]
      simp [Event.title?]
    · change (reports.map Prod.fst).sum + (next.reportFrames + 1) = m.reportFrames + (n + 1)
      rw [sameFrames, ← Nat.add_assoc, frames, Nat.add_assoc]
    · change (reports.map Prod.snd).sum + (next.reportSteps + next.settings.stepsPerFrame) =
        m.reportSteps + ((n + 1 : Nat) : Int) * m.settings.stepsPerFrame
      rw [sameSteps, settings, books.settings, ← Int.add_assoc, steps, Int.natCast_succ,
        Int.add_mul, Int.one_mul, Int.add_assoc]

end Machine

end Chip8
