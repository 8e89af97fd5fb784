import Chip8.Proofs.Run.Alternation
import Chip8.Proofs.Run.Endings

namespace Chip8

namespace Diary

def frames (diary : Diary) : Nat :=
  (diary.filterMap Event.picture?).length

def framesSince (diary : Diary) : Nat :=
  diary.foldl (fun frames event =>
    match event with
    | .titled _ => 0
    | .shown _ => frames + 1
    | _ => frames) 0

theorem framesSince_note (diary : Diary) {event : Event} (untitled : event.title? = none)
    (unseen : event.picture? = none) : framesSince (diary ++ [event]) = diary.framesSince := by
  unfold framesSince
  rw [List.foldl_append]
  cases event with
  | titled text => cases untitled
  | shown picture => cases unseen
  | _ => rfl

theorem framesSince_titled (diary : Diary) (text : String) :
    framesSince (diary ++ [.titled text]) = 0 := by
  unfold framesSince
  rw [List.foldl_append]
  rfl

theorem framesSince_shown (diary : Diary) (picture : Array UInt8) :
    framesSince (diary ++ [.shown picture]) = diary.framesSince + 1 := by
  unfold framesSince
  rw [List.foldl_append]
  rfl

theorem framesSince_le (diary : Diary) : diary.framesSince ≤ diary.frames := by
  induction diary using List.reverseRecOn with
  | nil => exact Nat.le_refl 0
  | append_singleton diary event ih =>
    have total : frames (diary ++ [event]) = frames diary + frames [event] := by
      simp [frames]
    cases event with
    | titled text =>
      rw [framesSince_titled]
      exact Nat.zero_le _
    | shown picture =>
      have one : frames [Event.shown picture] = 1 := rfl
      rw [framesSince_shown, total, one]
      omega
    | _ =>
      rw [framesSince_note diary rfl rfl, total]
      omega

end Diary

namespace Machine

variable {τ : Type} {bench : Bench τ} {m next : Machine} {s t : Machine × Diary} {n : Nat}

def countedSteps : Nat → Session Nat Unit
  | 0 => pure ()
  | n + 1 => do
    Session.host (modify (· + 1))
    Session.machine step
    countedSteps n

def stepsTaken (m : Machine) : Nat :=
  (stateAfter (countedSteps m.settings.stepsPerFrame.toNat) (m, 0)).2

/-- The machine with which the frame after so many rounds begins. -/
def beginning (bench : Bench τ) (m : Machine) (n : Nat) : Machine :=
  (glanced bench (stateAfter (rounds bench.host n) (m, []))).1

/-- How many steps were taken by the frames that a diary tells of since its last report. -/
def stepsSince (bench : Bench τ) (m : Machine) (diary : Diary) : Nat :=
  ((List.range' (diary.frames - diary.framesSince) diary.framesSince).map fun k =>
    (beginning bench m k).stepsTaken).sum

theorem countedSteps_of_ok {calls : Nat} (done : steps n m = .ok () next) :
    countedSteps n (m, calls) = .ok () (next, calls + n) := by
  induction n generalizing m calls with
  | zero =>
    cases done
    rfl
  | succ n ih =>
    obtain ⟨_, first, stepped, rest⟩ := ok_of_bind done
    have counted : Session.machine step (m, calls + 1) = .ok () (first, calls + 1) :=
      Session.machine_of_ok stepped
    change (Session.machine step >>= fun _ => countedSteps n) (m, calls + 1) = _
    rw [bind_of_ok counted, ih rest, Nat.add_right_comm, Nat.add_assoc]

theorem stepsTaken_of_ok (done : frameSteps m = .ok () next) :
    m.stepsTaken = m.settings.stepsPerFrame.toNat := by
  have counted : countedSteps m.settings.stepsPerFrame.toNat (m, 0) =
      .ok () (next, 0 + m.settings.stepsPerFrame.toNat) := countedSteps_of_ok done
  unfold stepsTaken
  rw [stateAfter_of_ok counted, Nat.zero_add]

theorem stepsTaken_beginning {k : Nat} (done : rounds bench.host n (m, []) = .ok () t)
    (early : k < n) : (beginning bench m k).stepsTaken = m.settings.stepsPerFrame.toNat := by
  obtain ⟨u, through⟩ := exists_rounds early done
  obtain ⟨_, s, before, last⟩ := ok_of_bind through
  rw [round_eq] at last
  obtain ⟨next, stepped, -⟩ := steps_of_frame last
  have settings : (glanced bench s).1.settings = m.settings := (tally_rounds before).settings
  unfold beginning
  rw [stateAfter_of_ok before, stepsTaken_of_ok stepped, settings]

theorem stepsSince_eq {diary : Diary} (done : rounds bench.host n (m, []) = .ok () t)
    (inside : diary.frames ≤ n) :
    stepsSince bench m diary = diary.framesSince * m.settings.stepsPerFrame.toNat := by
  have few := diary.framesSince_le
  have each : ∀ k ∈ List.range' (diary.frames - diary.framesSince) diary.framesSince,
      (beginning bench m k).stepsTaken = m.settings.stepsPerFrame.toNat := by
    intro k member
    obtain ⟨-, late⟩ := List.mem_range'_1.1 member
    exact stepsTaken_beginning done (by omega)
  unfold stepsSince
  rw [List.map_congr_left each, List.map_const', List.sum_replicate_nat, List.length_range']

theorem stateAfter_told {α : Type} (event : Event) (answer : Except Fault α) (diary : Diary) :
    stateAfter (Bench.told event answer) diary = diary ++ [event] := by
  cases answer <;> rfl

structure BenchInvariant (bench : Bench τ) (P : Machine × Diary → Prop) : Prop where
  clocked : ∀ {s}, P s → ∀ event, event = .read ∨ event = .slept → P (s.1, s.2 ++ [event])
  reported : ∀ {s}, P s → P (reported s)
  glanced : ∀ {s}, P s → P (glanced bench s)
  framed : ∀ {s next}, P s → frameSteps s.1 = .ok () next → P (framed next s.2)
  halted : ∀ {s next fault}, P s → frameSteps s.1 = .error fault next → P (next, s.2)

namespace BenchInvariant

variable {P : Machine × Diary → Prop}

theorem told (inv : BenchInvariant bench P) {α : Type} {action : EStateM Fault Diary α}
    {event : Event} (timing : event = .read ∨ event = .slept)
    (noted : ∀ diary, stateAfter action diary = diary ++ [event]) :
    Keeps P (Session.host action) := by
  intro s holds
  rw [Session.stateAfter_host, noted]
  exact inv.clocked holds event timing

theorem session (inv : BenchInvariant bench P) : SessionInvariant bench.host P where
  now := inv.told (.inl rfl) fun diary => stateAfter_told .read (bench.reading _) diary
  sleep _ := inv.told (.inr rfl) fun diary => stateAfter_told .slept (bench.sleep _) diary
  report s holds := by
    rw [stateAfter_of_ok (report_eq bench s)]
    exact inv.reported holds
  look s holds := by
    rw [stateAfter_of_ok (pollHost_eq bench s)]
    exact inv.glanced holds
  frame s holds := by
    cases stepped : frameSteps s.1 with
    | ok _ next =>
      rw [stateAfter_of_ok (frame_of_steps stepped)]
      exact inv.framed holds stepped
    | error fault next =>
      rw [stateAfter_of_error (frame_of_failed stepped)]
      exact inv.halted holds stepped

end BenchInvariant

/-- Every report in a diary tells the frames since the report before it, and so many steps for each
of them. -/
def Reported (each : Int) (diary : Diary) : Prop :=
  ∀ (earlier later : Diary) (text : String), diary = earlier ++ .titled text :: later →
    text = speedTitle earlier.framesSince (earlier.framesSince * each)

variable {each : Int} {diary : Diary} {event : Event}

theorem Reported.append (reported : Reported each diary)
    (last : ∀ text, event = .titled text →
      text = speedTitle diary.framesSince (diary.framesSince * each)) :
    Reported each (diary ++ [event]) := by
  intro earlier later text same
  rcases List.eq_nil_or_concat later with rfl | ⟨before, final, rfl⟩
  · obtain ⟨rfl, new⟩ := List.append_inj' same rfl
    cases new
    exact last text rfl
  · rw [List.concat_eq_append, ← List.cons_append, ← List.append_assoc] at same
    exact reported earlier before text (List.append_inj' same rfl).1

theorem Reported.note (reported : Reported each diary) (untitled : event.title? = none) :
    Reported each (diary ++ [event]) := by
  refine reported.append fun text titled => ?_
  rw [titled] at untitled
  cases untitled

structure Counted (given : Settings) (s : Machine × Diary) : Prop where
  settings : s.1.settings = given
  frames : s.1.reportFrames = s.2.framesSince
  steps : s.1.reportSteps = s.2.framesSince * given.stepsPerFrame
  reported : Reported given.stepsPerFrame s.2

namespace Counted

variable {given : Settings}

theorem note (counted : Counted given s) (kept : next.ledger = s.1.ledger)
    (untitled : event.title? = none) (unseen : event.picture? = none) :
    Counted given (next, s.2 ++ [event]) where
  settings := (congrArg Prod.fst kept).trans counted.settings
  frames := by
    have frames : next.reportFrames = s.1.reportFrames := congrArg (fun l => l.2.2.1) kept
    rw [Diary.framesSince_note s.2 untitled unseen, ← counted.frames, frames]
  steps := by
    have steps : next.reportSteps = s.1.reportSteps := congrArg (fun l => l.2.2.2) kept
    rw [Diary.framesSince_note s.2 untitled unseen, ← counted.steps, steps]
  reported := counted.reported.note untitled

theorem halted (counted : Counted given s) (kept : next.ledger = s.1.ledger) :
    Counted given (next, s.2) where
  settings := (congrArg Prod.fst kept).trans counted.settings
  frames := (congrArg (fun l => l.2.2.1) kept).trans counted.frames
  steps := (congrArg (fun l => l.2.2.2) kept).trans counted.steps
  reported := counted.reported

theorem sounded (counted : Counted given s) (m : Machine) :
    Counted given (s.1, s.2 ++ m.tones) := by
  rcases m.tones_cases with silent | loud
  · rw [silent, List.append_nil]
    exact counted
  · rw [loud]
    exact counted.note rfl rfl rfl

theorem framed (counted : Counted given s) (kept : next.ledger = s.1.ledger) :
    Counted given (framed next s.2) := by
  obtain ⟨settled, frames, steps, reported⟩ := (counted.halted kept).sounded next
  refine ⟨settled, ?_, ?_, reported.note rfl⟩
  · change next.reportFrames + 1 = Diary.framesSince (s.2 ++ next.tones ++ [.shown _])
    rw [Diary.framesSince_shown, ← frames]
  · change next.reportSteps + next.settings.stepsPerFrame =
      (Diary.framesSince (s.2 ++ next.tones ++ [.shown _]) : Int) * given.stepsPerFrame
    rw [Diary.framesSince_shown, steps, settled, Int.natCast_succ, Int.add_mul, Int.one_mul]

theorem anew (counted : Counted given s) : Counted given (Machine.reported s) where
  settings := counted.settings
  frames := (Diary.framesSince_titled s.2 _).symm
  steps := by
    change (0 : Int) = (Diary.framesSince (s.2 ++ [.titled _]) : Int) * given.stepsPerFrame
    rw [Diary.framesSince_titled, Int.natCast_zero, Int.zero_mul]
  reported := by
    refine counted.reported.append fun text titled => ?_
    cases titled
    rw [counted.frames, counted.steps]

theorem invariant (bench : Bench τ) (given : Settings) :
    BenchInvariant bench (Counted given) where
  clocked counted event timing := by
    rcases timing with rfl | rfl <;> exact counted.note rfl rfl rfl
  reported counted := counted.anew
  glanced counted := counted.note rfl rfl rfl
  framed counted stepped := counted.framed (ledger_of_steps stepped)
  halted {s _ _} counted failed := by
    have kept := ledger_frameSteps s.1
    rw [stateAfter_of_error failed] at kept
    exact counted.halted kept

end Counted

/-- A frame of a run begins with a machine: after so many turns the run looks at the keys, and is
not asked to quit. -/
inductive Begins [Add τ] [Sub τ] [LT τ] [LE τ] [DecidableLT τ] [DecidableLE τ] [OfNat τ 0]
    (bench : Bench τ) (tempo : Tempo τ) (m : Machine) (n : Nat) (next : Machine) : Prop where
  | mk {pacing s now world after diary} (course : Course bench.host tempo (m, []) n pacing s)
      (read : bench.host.now s.2 = .ok now world)
      (before : beforeFrame bench.host tempo pacing now (s.1, world) =
        .ok (false, after) (next, diary))

variable [Add τ] [Sub τ] [LT τ] [LE τ] [DecidableLT τ] [DecidableLE τ] [OfNat τ 0]

theorem Begins.emulated {tempo : Tempo τ} (begins : Begins bench tempo m n next) :
    next.emulated = (beginning bench m n).emulated := by
  obtain ⟨course, read, before⟩ := begins
  obtain ⟨⟨t, abreast⟩, -⟩ := abreast_course course
  obtain ⟨-, poised⟩ := abreast.opened read before
  unfold beginning
  rw [stateAfter_of_ok abreast.rounds]
  exact poised.same.machines

theorem frames_run (bench : Bench τ) (tempo : Tempo τ) (fuel : Nat) (maxFrames : Option Int)
    (m : Machine) :
    ∃ t, rounds bench.host
      (stateAfter (run bench.host tempo fuel maxFrames) (m, [])).2.frames (m, []) = .ok () t := by
  obtain ⟨n, t, done, leaves, -⟩ := leaves_run bench tempo fuel maxFrames m
  have shown := (leaves.tally done).2
  have total : Diary.frames (stateAfter (run bench.host tempo fuel maxFrames) (m, [])).2 = n := by
    unfold Diary.frames
    rw [shown]
    simp [pictures]
  exact ⟨t, total ▸ done⟩

/-- A run that begins to count anew reports, whenever it does, the frames completed since the report
before, and for each of them the steps that the settings ask for; its own counts are the same of the
frames since the last report. These are the steps that the frames took, unless the settings ask for
fewer than none and there was a frame. -/
theorem reports_count_steps (bench : Bench τ) (tempo : Tempo τ) (fuel : Nat)
    (maxFrames : Option Int) (m : Machine) (anew : m.reportFrames = 0 ∧ m.reportSteps = 0) :
    let s := stateAfter (run bench.host tempo fuel maxFrames) (m, [])
    let each := m.settings.stepsPerFrame
    (∀ (earlier later : Diary) (text : String), s.2 = earlier ++ .titled text :: later →
      ∀ frames steps : Int, text = speedTitle frames steps ↔
        frames = earlier.framesSince ∧ steps = earlier.framesSince * each) ∧
    s.1.reportFrames = s.2.framesSince ∧ s.1.reportSteps = s.2.framesSince * each ∧
    (∀ earlier later : Diary, s.2 = earlier ++ later →
      (earlier.framesSince * each = stepsSince bench m earlier ↔
        0 ≤ each ∨ earlier.framesSince = 0)) ∧
    ∀ n next, Begins bench tempo m n next → next.emulated = (beginning bench m n).emulated := by
  intro s each
  have start : Counted m.settings (m, []) := by
    refine ⟨rfl, anew.1, ?_, by simp [Reported]⟩
    rw [anew.2]
    exact (Int.zero_mul _).symm
  have counted : Counted m.settings s := (Counted.invariant bench m.settings).session.run _ start
  obtain ⟨t, done⟩ := frames_run bench tempo fuel maxFrames m
  refine ⟨?_, counted.frames, counted.steps, ?_, fun n next => Begins.emulated⟩
  · intro earlier later text same frames steps
    rw [counted.reported earlier later text same, speedTitle_inj]
    exact and_congr eq_comm eq_comm
  intro earlier later same
  have inside : earlier.frames ≤ s.2.frames := by
    rw [same]
    simp [Diary.frames]
  rw [stepsSince_eq done inside, Int.natCast_mul]
  by_cases idle : earlier.framesSince = 0
  · simp [idle]
  · have busy : (earlier.framesSince : Int) ≠ 0 := by omega
    rw [Int.mul_eq_mul_left_iff busy]
    omega

theorem reports_count_steps_leisurely :
    let m := waiting 2
    let s := stateAfter (run leisurely.host sixtieths 9 (some 5)) (m, [])
    (m.reportFrames = 0 ∧ m.reportSteps = 0) ∧
      s.2.filterMap Event.title? = [speedTitle 3 6] ∧ s.1.reportSteps = 4 ∧
      stepsSince leisurely m s.2 = 4 := by
  intro m s
  have anew : m.reportFrames = 0 ∧ m.reportSteps = 0 := ⟨rfl, rfl⟩
  obtain ⟨-, -, -, taken, -⟩ := reports_count_steps leisurely sixtieths 9 (some 5) m anew
  have last : s.2.framesSince = 2 := by decide +kernel
  have steps := (taken s.2 [] (List.append_nil s.2).symm).2 (.inl (by decide))
  have two : m.settings.stepsPerFrame = 2 := rfl
  rw [last, two] at steps
  exact ⟨anew, by decide +kernel, by decide +kernel, by omega⟩

/-- A machine that is to take two steps fewer than none in each frame takes none, and a run that has
completed three frames reports six steps fewer than none. -/
theorem reports_fewer_than_none :
    let m := waiting (-2)
    let s := stateAfter (run leisurely.host sixtieths 9 (some 5)) (m, [])
    (m.reportFrames = 0 ∧ m.reportSteps = 0) ∧
      s.2[14]? = some (.titled (speedTitle 3 (-6))) ∧ stepsSince leisurely m (s.2.take 14) = 0 ∧
      s.1.reportSteps = -4 ∧ stepsSince leisurely m s.2 = 0 := by
  decide +kernel

end Machine

end Chip8
