import Chip8.Proofs.Lockstep.Run
import Chip8.Proofs.Run.Endings
import Chip8.Proofs.Run.Timings

namespace Chip8

namespace Host

variable {σ α : Type}

def noted (action : EStateM Fault σ α) (adds : Option α → Timings) :
    EStateM Fault (σ × Timings) α := fun (world, timings) =>
  match action world with
  | .ok value world => .ok value (world, adds (some value) ++ timings)
  | .error fault world => .error fault (world, adds none ++ timings)

def unnoted (action : EStateM Fault σ α) : EStateM Fault (σ × Timings) α :=
  noted action fun _ => []

/-- A host that notes down what its clock reads, and all sleeps, also one that fails. -/
def timed (host : Host ℚ σ) : Host ℚ (σ × Timings) where
  now := noted host.now fun time => (time.map Timing.read).toList
  sleep rest := noted (host.sleep rest) fun _ => [.slept rest]
  poll keypad := unnoted (host.poll keypad)
  present picture := unnoted (host.present picture)
  title text := unnoted (host.title text)
  tone := unnoted host.tone

def Beside (world : σ) (kept : σ × Timings) : Prop :=
  kept.1 = world

theorem lockstep_noted (action : EStateM Fault σ α) (adds : Option α → Timings) :
    Lockstep (· = ·) Beside action (noted action adds) := by
  rintro _ ⟨world, timings⟩ rfl
  unfold noted
  dsimp only
  cases action world with
  | ok value next => exact .ok value rfl
  | error fault next => exact .error rfl rfl

theorem timed_alike (host : Host ℚ σ) : host.AlikeThroughout Beside host.timed where
  now := lockstep_noted host.now fun time => (time.map Timing.read).toList
  sleep rest := lockstep_noted (host.sleep rest) fun _ => [.slept rest]
  poll keypad := lockstep_noted (host.poll keypad) fun _ => []
  present picture := lockstep_noted (host.present picture) fun _ => []
  title text := lockstep_noted (host.title text) fun _ => []
  tone := lockstep_noted host.tone fun _ => []

section

variable {action : EStateM Fault σ α} {adds : Option α → Timings} {world next : σ × Timings}
variable {timings : Timings} {fault : Fault}

theorem noted_eq_ok {value : α} (done : noted action adds world = .ok value next) :
    next.2 = adds (some value) ++ world.2 := by
  obtain ⟨before, timings⟩ := world
  unfold noted at done
  dsimp only at done
  split at done
  · cases done
    rfl
  · cases done

theorem noted_eq_error (failed : noted action adds world = .error fault next) :
    next.2 = adds none ++ world.2 := by
  obtain ⟨before, timings⟩ := world
  unfold noted at failed
  dsimp only at failed
  split at failed
  · cases failed
  · cases failed
    rfl

theorem keeps_unnoted (action : EStateM Fault σ α) :
    Keeps (fun world : σ × Timings => world.2 = timings) (unnoted action) := by
  rintro world rfl
  unfold stateAfter
  cases done : unnoted action world with
  | ok value next => exact noted_eq_ok done
  | error fault next => exact noted_eq_error done

end

section

variable {host : Host ℚ σ} {world next : σ × Timings} {time rest : ℚ} {fault : Fault}

theorem timings_of_now (read : host.timed.now world = .ok time next) :
    next.2 = .read time :: world.2 := by
  change noted host.now (fun time => (time.map Timing.read).toList) world = _ at read
  exact noted_eq_ok read

theorem timings_of_untimed (failed : host.timed.now world = .error fault next) :
    next.2 = world.2 := by
  change noted host.now (fun time => (time.map Timing.read).toList) world = _ at failed
  exact noted_eq_error failed

theorem timings_of_sleep (slept : host.timed.sleep rest world = .ok () next) :
    next.2 = .slept rest :: world.2 := by
  change noted (host.sleep rest) (fun _ => [.slept rest]) world = _ at slept
  exact noted_eq_ok slept

theorem timings_of_sleepless (failed : host.timed.sleep rest world = .error fault next) :
    next.2 = .slept rest :: world.2 := by
  change noted (host.sleep rest) (fun _ => [.slept rest]) world = _ at failed
  exact noted_eq_error failed

end

theorem timed_steady (host : Host ℚ σ) (timings : Timings) :
    host.timed.Steady fun world => world.2 = timings where
  poll keypad := keeps_unnoted (host.poll keypad)
  present picture := keeps_unnoted (host.present picture)
  title text := keeps_unnoted (host.title text)
  tone := keeps_unnoted host.tone

end Host

namespace Pacing

variable {pacing : Pacing ℚ} {now rest : ℚ}

theorem nextFrame_afterFrame (pacing : Pacing ℚ) (tempo : Tempo ℚ) (began : ℚ) :
    (pacing.afterFrame tempo began).nextFrame =
      Timings.dueNext tempo.frame pacing.nextFrame began := by
  change later (pacing.nextFrame + tempo.frame) began = max (pacing.nextFrame + tempo.frame) began
  unfold later
  split
  · rename_i before
    exact (max_eq_right before.le).symm
  · rename_i after
    exact (max_eq_left (not_lt.1 after)).symm

theorem pause_eq_some (paused : pacing.pause now = some rest) :
    now < pacing.nextFrame ∧ rest = pacing.nextFrame - now := by
  unfold pause at paused
  dsimp only at paused
  split at paused
  · rename_i positive
    cases paused
    exact ⟨sub_pos.1 positive, rfl⟩
  · cases paused

theorem pause_eq_none (due : pacing.pause now = none) : pacing.nextFrame ≤ now := by
  unfold pause at due
  dsimp only at due
  split at due
  · cases due
  · rename_i nothing
    exact sub_nonpos.1 (not_lt.1 nothing)

end Pacing

namespace Machine

variable {σ : Type} {host : Host ℚ σ} {tempo : Tempo ℚ} {pacing next : Pacing ℚ} {now : ℚ} {n : Nat}
variable {s t u : Machine × σ × Timings} {fault : Fault} {quit : Bool}

theorem nextFrame_of_beforeFrame {τ σ : Type} [Add τ] [LE τ] [DecidableLE τ] {host : Host τ σ}
    {tempo : Tempo τ} {pacing next : Pacing τ} {now : τ} {s t : Machine × σ}
    (before : beforeFrame host tempo pacing now s = .ok (quit, next) t) :
    next.nextFrame = pacing.nextFrame := by
  have polled {other : Pacing τ} {s : Machine × σ}
      (done : (pollHost host >>= fun quit => pure (quit, other)) s = .ok (quit, next) t) :
      other = next := by
    obtain ⟨answer, u, -, returned⟩ := ok_of_bind done
    cases returned
    rfl
  unfold beforeFrame at before
  cases due : pacing.reportDue now with
  | false =>
    simp only [due, Bool.false_eq_true, if_false] at before
    rw [← polled before]
  | true =>
    simp only [due, if_true] at before
    obtain ⟨_, u, -, later⟩ := ok_of_bind before
    rw [← polled later]
    rfl

theorem timings_beforeFrame (host : Host ℚ σ) (tempo : Tempo ℚ) (pacing : Pacing ℚ) (now : ℚ)
    (s : Machine × σ × Timings) :
    (stateAfter (beforeFrame host.timed tempo pacing now) s).2.2 = s.2.2 :=
  (steadySession_of_host (host.timed_steady s.2.2)).beforeFrame s rfl

theorem timings_frame (host : Host ℚ σ) (s : Machine × σ × Timings) :
    (stateAfter (frame host.timed) s).2.2 = s.2.2 :=
  (steadySession_of_host (host.timed_steady s.2.2)).frame s rfl

/-- What a turn has added to the timings, whatever it comes to. -/
def TurnTimed (tempo : Tempo ℚ) (pacing : Pacing ℚ) (timings : Timings) :
    EStateM.Result Fault (Machine × σ × Timings) (Option (Pacing ℚ)) → Prop
  | .ok (some next) t => timings.Added tempo.frame pacing.nextFrame (some next.nextFrame) t.2.2
  | .ok none t | .error _ t => ∃ due, timings.Added tempo.frame pacing.nextFrame due t.2.2

theorem timings_turn (host : Host ℚ σ) (tempo : Tempo ℚ) (pacing : Pacing ℚ)
    (s : Machine × σ × Timings) :
    TurnTimed tempo pacing s.2.2 (turn host.timed tempo pacing s) := by
  have turned := turned host.timed tempo pacing s
  generalize turn host.timed tempo pacing s = result at turned
  have opened {now world quit next t} (read : host.timed.now s.2 = .ok now world)
      (before : beforeFrame host.timed tempo pacing now (s.1, world) = .ok (quit, next) t) :
      t.2.2 = .read now :: s.2.2 := by
    have kept := timings_beforeFrame host tempo pacing now (s.1, world)
    rw [stateAfter_of_ok before] at kept
    exact kept.trans (Host.timings_of_now read)
  have framed {t u : Machine × σ × Timings} (done : frame host.timed t = .ok () u) :
      u.2.2 = t.2.2 := by
    have kept := timings_frame host t
    rwa [stateAfter_of_ok done] at kept
  have due {now world quit next t} (before : beforeFrame host.timed tempo pacing now (s.1, world) =
      .ok (quit, next) t) : (next.afterFrame tempo now).nextFrame =
        Timings.dueNext tempo.frame pacing.nextFrame now := by
    rw [Pacing.nextFrame_afterFrame, nextFrame_of_beforeFrame before]
  cases turned with
  | untimed read =>
    refine ⟨none, ?_⟩
    rw [Host.timings_of_untimed read]
    exact .nothing
  | @spoilt now world fault t read before =>
    have kept := timings_beforeFrame host tempo pacing now (s.1, world)
    rw [stateAfter_of_error before] at kept
    refine ⟨none, ?_⟩
    rw [kept, Host.timings_of_now read]
    exact .began now
  | quit read before =>
    refine ⟨none, ?_⟩
    rw [opened read before]
    exact .began _
  | @halted now world next t fault u read before failed =>
    have kept := timings_frame host t
    rw [stateAfter_of_error failed] at kept
    refine ⟨none, ?_⟩
    rw [kept, opened read before]
    exact .began now
  | untimedAfter read before done late =>
    refine ⟨none, ?_⟩
    rw [Host.timings_of_untimed late, framed done, opened read before]
    exact .began _
  | @sleepless now world next t u after later rest fault last read before done late early slept =>
    obtain ⟨soon, rfl⟩ := Pacing.pause_eq_some early
    rw [due before] at soon slept
    refine ⟨some (Timings.dueNext tempo.frame pacing.nextFrame now), ?_⟩
    rw [Host.timings_of_sleepless slept, Host.timings_of_now late, framed done, opened read before]
    exact .rested now after soon
  | @slept now world next t u after later rest last read before done late early slept =>
    obtain ⟨soon, rfl⟩ := Pacing.pause_eq_some early
    rw [due before] at soon slept
    change s.2.2.Added _ _ (some (next.afterFrame tempo now).nextFrame) last.2
    rw [due before, Host.timings_of_sleep slept, Host.timings_of_now late, framed done,
      opened read before]
    exact .rested now after soon
  | @hurried now world next t u after later read before done late hurry =>
    have behind := Pacing.pause_eq_none hurry
    rw [due before] at behind
    change s.2.2.Added _ _ (some (next.afterFrame tempo now).nextFrame) later.2
    rw [due before, Host.timings_of_now late, framed done, opened read before]
    exact .hurried now after behind

theorem between_course {m : Machine} {world : σ}
    (course : Course host.timed tempo (m, (world, [])) n pacing s) :
    Timings.Between tempo.frame n pacing.nextFrame s.2.2 := by
  induction course with
  | begun read =>
    rw [Host.timings_of_now read]
    exact Timings.between_start tempo.frame _
  | @turned n pacing s next t before done ih =>
    have timed := timings_turn host tempo pacing s
    rw [done] at timed
    exact (ih.added timed).2 _ rfl

theorem punctual_run (host : Host ℚ σ) (tempo : Tempo ℚ) (fuel : Nat) (maxFrames : Option Int)
    (m : Machine) (world : σ) :
    let timings := (stateAfter (run host.timed tempo fuel maxFrames) (m, (world, []))).2.2
    timings.Steady → timings.Punctual tempo.frame := by
  obtain ⟨n, ended⟩ := ended host.timed tempo fuel maxFrames (m, (world, []))
  unfold stateAfter
  generalize run host.timed tempo fuel maxFrames (m, (world, [])) = result at ended
  intro timings steady
  cases ended with
  | untimed read =>
    have empty : timings = [] := Host.timings_of_untimed read
    rw [empty]
    exact Timings.punctual_nil
  | complete course all => exact ((between_course course).steady steady).1
  | cutOff course inside => exact ((between_course course).steady steady).1
  | @quit n pacing s t course early inside quit =>
    have timed := timings_turn host tempo pacing s
    rw [quit] at timed
    obtain ⟨due, added⟩ := timed
    exact ((between_course course).added added).1 steady
  | @failed n pacing s fault t course early inside failed =>
    have timed := timings_turn host tempo pacing s
    rw [failed] at timed
    obtain ⟨due, added⟩ := timed
    exact ((between_course course).added added).1 steady

/-- On a clock that does not go back, and that a sleep takes at least as far as it says, no sleep of
a run is longer than a frame, no frame begins before it is due, counted from the first reading, and
however late a frame is, those after it make up for no more than one. What notes down the readings
and the sleeps changes nothing about the run, which has read its clock once when it began, and twice
for each frame. While no frame begins later than the next one is due, each is due where it would be
if none were late at all. -/
theorem run_keeps_time (host : Host ℚ σ) (tempo : Tempo ℚ) (fuel : Nat) (maxFrames : Option Int)
    (m : Machine) (world : σ) :
    let start := (m, (world, []))
    let timings := (stateAfter (run host.timed tempo fuel maxFrames) start).2.2
    Alike (· = ·) (Both (· = ·) Host.Beside) (run host tempo fuel maxFrames (m, world))
      (run host.timed tempo fuel maxFrames start) ∧
    (timings.Steady → timings.Punctual tempo.frame) ∧
    ∀ n pacing s, Course host.timed tempo start n pacing s →
      s.2.2.readings.length = 2 * n + 1 ∧
      ∀ first ∈ s.2.2.readings.head?,
        (∀ k time, s.2.2.top? k = some time → time ≤ first + k * tempo.frame + tempo.frame) →
          pacing.nextFrame = first + n * tempo.frame := by
  intro start timings
  refine ⟨?_, punctual_run host tempo fuel maxFrames m world, ?_⟩
  · exact onBoth_run host.timed_alike tempo fuel maxFrames (m, world) start ⟨rfl, rfl⟩
  · intro n pacing s course
    have between := between_course course
    exact ⟨between.readings, between.undrifted⟩

def sluggish : Host ℚ ℚ where
  now time := .ok time time
  sleep rest time := .ok () (time + rest)
  poll keypad time := .ok (false, keypad) time
  present _ time := .ok () (if time < 1 / 60 then time + 1 / 20 else time)
  title _ time := .ok () time
  tone time := .ok () time

def sixtieth : Tempo ℚ where
  frame := 1 / 60
  report := 1

theorem run_keeps_time_sluggish :
    let start := (new { stepsPerFrame := 0 } [] (Noise.cycle #[]), ((0 : ℚ), ([] : Timings)))
    let timings := (stateAfter (run sluggish.timed sixtieth 9 (some 4)) start).2.2
    (timings.Steady ∧ timings.top? 1 = some (1 / 20) ∧ timings.top? 2 = some (1 / 20) ∧
      timings.top? 3 = some (1 / 15) ∧ timings.Punctual sixtieth.frame) ∧
    ∃ pacing s, Course sluggish.timed sixtieth start 1 pacing s ∧ s.2.2.readings.length = 3 ∧
      pacing.nextFrame = 0 + 1 * sixtieth.frame := by
  intro start timings
  obtain ⟨-, punctual, undrifted⟩ := run_keeps_time sluggish sixtieth 9 (some 4) start.1 0
  constructor
  · have steady : timings.Steady := by decide +kernel
    exact ⟨steady, by decide +kernel, by decide +kernel, by decide +kernel, punctual steady⟩
  · have going : ((turn sluggish.timed sixtieth (Pacing.start sixtieth 0)).run'
        (start.1, (0, [.read 0]))).join.isSome = true := by decide +kernel
    unfold EStateM.run' EStateM.run at going
    cases done : turn sluggish.timed sixtieth (Pacing.start sixtieth 0)
        (start.1, (0, [.read 0])) with
    | error fault s =>
      rw [done] at going
      cases going
    | ok next s =>
      rw [done] at going
      obtain ⟨pacing, rfl⟩ := Option.isSome_iff_exists.1 going
      have noted : s.2.2 = [.read (1 / 20), .read 0, .read 0] := by
        rw [← stateAfter_of_ok done]
        decide +kernel
      have course : Course sluggish.timed sixtieth start 1 pacing s := .turned (.begun rfl) done
      obtain ⟨count, due⟩ := undrifted 1 pacing s course
      have onTime (k : Nat) (time : ℚ) (top : s.2.2.top? k = some time) :
          time ≤ 0 + k * sixtieth.frame + sixtieth.frame := by
        have inside := Timings.lt_of_top? top
        obtain rfl : k = 0 := by omega
        have zero : s.2.2.top? 0 = some 0 := by
          rw [noted]
          rfl
        cases zero.symm.trans top
        norm_num [sixtieth]
      exact ⟨pacing, s, course, count, mod_cast due 0 (by rw [noted]; rfl) onTime⟩

end Machine

end Chip8
