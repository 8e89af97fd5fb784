import Chip8.Proofs.Run.Rounds

namespace Chip8

namespace Machine

variable {τ : Type} {bench : Bench τ} {m : Machine} {n : Nat} {s t u : Machine × Diary}
variable {event : Event}

/-- A run that has completed as many frames as the rounds that left `t`. -/
structure Abreast (bench : Bench τ) (m : Machine) (n : Nat) (t s : Machine × Diary) : Prop where
  rounds : rounds bench.host n (m, []) = .ok () t
  same : Matches t s
  books : Books m n s

theorem Abreast.clocked (abreast : Abreast bench m n t s)
    (timing : event = .read ∨ event = .slept) : Abreast bench m n t (s.1, s.2 ++ [event]) where
  rounds := abreast.rounds
  same := by
    rcases timing with rfl | rfl <;> exact abreast.same.note rfl rfl rfl
  books := by
    rcases timing with rfl | rfl <;> exact abreast.books.note (fun _ => ⟨nofun, nofun⟩) rfl

theorem Abreast.reported (abreast : Abreast bench m n t s) :
    Abreast bench m n t (reported s) where
  rounds := abreast.rounds
  same := abreast.same.note rfl rfl rfl
  books := abreast.books.reported

theorem Abreast.looks (abreast : Abreast bench m n t s) : s.2.count .looked = n :=
  abreast.same.looks.trans (tally_rounds abreast.rounds).looks

/-- A run that has looked at the keys after as many frames as the rounds that left `t`. -/
structure Poised (bench : Bench τ) (m : Machine) (n : Nat) (t s : Machine × Diary) : Prop where
  rounds : rounds bench.host n (m, []) = .ok () t
  same : Matches (glanced bench t) s
  books : Books m n s
  just : ∃ earlier, s.2 = earlier ++ [.looked]

theorem Abreast.glanced (abreast : Abreast bench m n t s) :
    Poised bench m n t (glanced bench s) where
  rounds := abreast.rounds
  same := abreast.same.glanced
  books := by
    have noted : Books m n (s.1, s.2 ++ [.looked]) :=
      abreast.books.note (fun _ => ⟨nofun, nofun⟩) rfl
    exact noted.kept rfl rfl
  just := ⟨s.2, rfl⟩

theorem Poised.frame (poised : Poised bench m n t s) (done : frame bench.host s = .ok () u) :
    ∃ t', Abreast bench m (n + 1) t' u := by
  obtain ⟨earlier, glanced⟩ := poised.just
  obtain ⟨next, stepped, rfl⟩ := steps_of_frame done
  -- The frame of the round begins where that of the run does, but for clock and reports.
  have alike := matches_frame bench _ _ poised.same
  rw [done, ← round_eq] at alike
  generalize ended : round bench.host t = result at alike
  cases alike with
  | ok _ same =>
    exact ⟨_, (rounds_of_ok bench.host poised.rounds).trans ended, same,
      poised.books.framed glanced stepped⟩

theorem Poised.failed {fault : Fault} (poised : Poised bench m n t s)
    (failed : Machine.frame bench.host s = .error fault u) :
    Books m n u ∧ ∃ v, frameSteps (Machine.glanced bench t).1 = .error fault v ∧
      Matches (v, (Machine.glanced bench t).2) u := by
  obtain ⟨next, stepped, rfl⟩ := failed_of_frame failed
  have kept := ledger_frameSteps s.1
  rw [stateAfter_of_error stepped] at kept
  refine ⟨poised.books.kept kept rfl, ?_⟩
  have alike := matches_frame bench _ _ poised.same
  rw [failed] at alike
  generalize ended : Machine.frame bench.host (Machine.glanced bench t) = result at alike
  cases alike with
  | error sameFault same =>
    obtain ⟨v, stepped, rfl⟩ := failed_of_frame ended
    exact ⟨v, sameFault ▸ stepped, same⟩

inductive Passed (bench : Bench τ) (m : Machine) (n : Nat) (t : Machine × Diary) :
    EStateM.Result Fault (Machine × Diary) (Option (Pacing τ)) → Prop where
  | refused {fault : Fault} {u : Machine × Diary} (refused : bench.Refused fault u.2)
      (abreast : Abreast bench m n t u) : Passed bench m n t (.error fault u)
  | quit {u : Machine × Diary} (asked : bench.patience = some n)
      (poised : Poised bench m n t u) : Passed bench m n t (.ok none u)
  | halted {fault : Fault} {v : Machine} {u : Machine × Diary}
      (patient : bench.patience ≠ some n) (books : Books m n u)
      (failed : frameSteps (glanced bench t).1 = .error fault v)
      (same : Matches (v, (glanced bench t).2) u) : Passed bench m n t (.error fault u)
  | refusedAfter {fault : Fault} {t' u : Machine × Diary} (patient : bench.patience ≠ some n)
      (refused : bench.Refused fault u.2) (abreast : Abreast bench m (n + 1) t' u) :
      Passed bench m n t (.error fault u)
  | on {next : Pacing τ} {t' u : Machine × Diary} (patient : bench.patience ≠ some n)
      (abreast : Abreast bench m (n + 1) t' u) : Passed bench m n t (.ok (some next) u)

theorem abreast_start (bench : Bench τ) (m : Machine) : Abreast bench m 0 (m, []) (m, []) where
  rounds := rfl
  same := ⟨rfl, rfl⟩
  books := books_start m

/-- How a run on a bench leaves things after `n` frames, where as many rounds leave `t`. -/
inductive Leaves (bench : Bench τ) (fuel : Nat) (maxFrames : Option Int) (n : Nat)
    (t : Machine × Diary) : EStateM.Result Fault (Machine × Diary) Ending → Prop where
  | complete {s : Machine × Diary} (all : maxFrames.map Int.toNat = some n) (same : Matches t s) :
      Leaves bench fuel maxFrames n t (.ok .complete s)
  | cutOff {s : Machine × Diary} (spent : n = fuel) (same : Matches t s) :
      Leaves bench fuel maxFrames n t (.ok .cutOff s)
  | quit {s : Machine × Diary} (asked : bench.patience = some n)
      (same : Matches (stateAfter (pollHost bench.host) t) s) :
      Leaves bench fuel maxFrames n t (.ok .quit s)
  | refused {fault : Fault} {s : Machine × Diary} (refused : bench.Refused fault s.2)
      (same : Matches t s) :
      Leaves bench fuel maxFrames n t (.error fault s)
  | halted {fault : Fault} {m : Machine} {s : Machine × Diary}
      (more : ∀ most ∈ bench.frames maxFrames, n < most)
      (failed : frameSteps (stateAfter (pollHost bench.host) t).1 = .error fault m)
      (same : Matches (m, (stateAfter (pollHost bench.host) t).2) s) :
      Leaves bench fuel maxFrames n t (.error fault s)

theorem le_frames {maxFrames : Option Int} (few : ∀ most ∈ maxFrames.map Int.toNat, n ≤ most)
    (patient : ∀ k < n, bench.patience ≠ some k) : ∀ most ∈ bench.frames maxFrames, n ≤ most :=
  Bench.le_frames_iff.2 ⟨few, fun k asked => Nat.le_of_not_lt fun early => patient k early asked⟩

theorem Leaves.all {fuel most : Nat} {maxFrames : Option Int}
    {result : EStateM.Result Fault (Machine × Diary) Ending}
    (leaves : Leaves bench fuel maxFrames n t result)
    (done : rounds bench.host n (m, []) = .ok () t)
    (few : ∀ most ∈ bench.frames maxFrames, n ≤ most) (given : bench.frames maxFrames = some most)
    (enough : most < fuel) (timely : bench.Timely)
    (sound : ∃ u, rounds bench.host most (m, []) = .ok () u) :
    n = most ∧ ∃ ending s, result = .ok ending s ∧ ending ≠ .cutOff := by
  have inside := few most given
  have tight : ∀ frames ∈ bench.frames maxFrames, most ≤ frames := by
    intro frames also
    cases given.symm.trans also
    exact Nat.le_refl most
  obtain ⟨limited, patient⟩ := Bench.le_frames_iff.1 tight
  cases leaves with
  | @complete s all same =>
    have least := limited n all
    exact ⟨Nat.le_antisymm inside least, .complete, s, rfl, nofun⟩
  | cutOff spent same => omega
  | @quit s asked same =>
    have least := patient n asked
    exact ⟨Nat.le_antisymm inside least, .quit, s, rfl, nofun⟩
  | refused refused same => exact absurd refused timely.not_refused
  | halted more failed same =>
    -- All the rounds go through, so the step that fails is in none of them.
    obtain ⟨u, through⟩ := sound
    obtain ⟨v, further⟩ := exists_rounds (more most given) through
    rw [rounds_of_ok bench.host done, round_eq] at further
    obtain ⟨next, stepped, -⟩ := steps_of_frame further
    cases stepped.symm.trans failed

theorem Leaves.tally {action : Session Diary Ending} {fuel : Nat} {maxFrames : Option Int}
    (leaves : Leaves bench fuel maxFrames n t (action s))
    (done : rounds bench.host n (m, []) = .ok () t) :
    (stateAfter action s).1.frames = m.frames + n ∧
      (stateAfter action s).2.filterMap Event.picture? = pictures bench m n := by
  have tally := tally_rounds done
  have frames {s t : Machine × Diary} (same : Matches t s) : s.1.frames = t.1.frames :=
    congrArg (fun e => e.frames) same.machines
  have glancedPictures :
      (glanced bench t).2.filterMap Event.picture? = t.2.filterMap Event.picture? := by
    simp [glanced, Event.picture?]
  unfold stateAfter
  generalize action s = result at leaves
  cases leaves with
  | complete _ same | cutOff _ same | refused _ same =>
    exact ⟨(frames same).trans tally.frames, same.pictures.trans tally.pictures⟩
  | quit asked same =>
    exact ⟨(frames same).trans tally.frames,
      same.pictures.trans (glancedPictures.trans tally.pictures)⟩
  | halted more failed same =>
    have kept := ledger_frameSteps (stateAfter (pollHost bench.host) t).1
    rw [stateAfter_of_error failed] at kept
    have counted := congrArg (fun l => l.2.1) kept
    exact ⟨(frames same).trans (counted.trans tally.frames),
      same.pictures.trans (glancedPictures.trans tally.pictures)⟩

section

variable [Add τ] [LE τ] [DecidableLE τ] {tempo : Tempo τ} {pacing next : Pacing τ} {now : τ}
variable {world : Diary} {quit : Bool}

theorem Abreast.before (abreast : Abreast bench m n t s) (tempo : Tempo τ) (pacing : Pacing τ)
    (read : bench.host.now s.2 = .ok now world) :
    ∃ next u, beforeFrame bench.host tempo pacing now (s.1, world) =
      .ok (bench.patience == some n, next) u ∧ Poised bench m n t u := by
  obtain ⟨-, rfl⟩ := Bench.told_eq_ok read
  have timed := abreast.clocked (.inl rfl)
  obtain ⟨r, next, isR, opened⟩ := beforeFrame_eq bench tempo pacing now (s.1, s.2 ++ [.read])
  have reported : Abreast bench m n t r := by
    rcases isR with rfl | rfl
    · exact timed
    · exact timed.reported
  rw [reported.looks] at opened
  exact ⟨next, _, opened, reported.glanced⟩

theorem Abreast.opened (abreast : Abreast bench m n t s)
    (read : bench.host.now s.2 = .ok now world)
    (before : beforeFrame bench.host tempo pacing now (s.1, world) = .ok (quit, next) u) :
    (bench.patience == some n) = quit ∧ Poised bench m n t u := by
  obtain ⟨other, v, opened, poised⟩ := abreast.before tempo pacing read
  rw [opened] at before
  cases before
  exact ⟨rfl, poised⟩

end

variable [Add τ] [Sub τ] [LT τ] [LE τ] [DecidableLT τ] [DecidableLE τ] [OfNat τ 0]

theorem Abreast.passed (abreast : Abreast bench m n t s) (tempo : Tempo τ) (pacing : Pacing τ) :
    Passed bench m n t (turn bench.host tempo pacing s) := by
  have turned := turned bench.host tempo pacing s
  generalize turn bench.host tempo pacing s = result at turned
  cases turned with
  | untimed read =>
    obtain ⟨-, rfl⟩ := Bench.told_eq_error read
    exact .refused (Bench.refused_of_now read) (abreast.clocked (.inl rfl))
  | spoilt read before =>
    obtain ⟨next, u, opened, -⟩ := abreast.before tempo pacing read
    cases opened.symm.trans before
  | quit read before =>
    obtain ⟨asked, poised⟩ := abreast.opened read before
    exact .quit (beq_iff_eq.1 asked) poised
  | halted read before failed =>
    obtain ⟨asked, poised⟩ := abreast.opened read before
    obtain ⟨books, v, stepped, same⟩ := poised.failed failed
    exact .halted (beq_eq_false_iff_ne.1 asked) books stepped same
  | untimedAfter read before framed late =>
    obtain ⟨asked, poised⟩ := abreast.opened read before
    obtain ⟨t', after⟩ := poised.frame framed
    obtain ⟨-, rfl⟩ := Bench.told_eq_error late
    exact .refusedAfter (beq_eq_false_iff_ne.1 asked) (Bench.refused_of_now late)
      (after.clocked (.inl rfl))
  | sleepless read before framed late early slept =>
    obtain ⟨asked, poised⟩ := abreast.opened read before
    obtain ⟨t', after⟩ := poised.frame framed
    obtain ⟨-, rfl⟩ := Bench.told_eq_ok late
    obtain ⟨-, rfl⟩ := Bench.told_eq_error slept
    exact .refusedAfter (beq_eq_false_iff_ne.1 asked) (Bench.refused_of_sleep slept)
      ((after.clocked (.inl rfl)).clocked (.inr rfl))
  | slept read before framed late early slept =>
    obtain ⟨asked, poised⟩ := abreast.opened read before
    obtain ⟨t', after⟩ := poised.frame framed
    obtain ⟨-, rfl⟩ := Bench.told_eq_ok late
    obtain ⟨-, rfl⟩ := Bench.told_eq_ok slept
    exact .on (beq_eq_false_iff_ne.1 asked) ((after.clocked (.inl rfl)).clocked (.inr rfl))
  | hurried read before framed late due =>
    obtain ⟨asked, poised⟩ := abreast.opened read before
    obtain ⟨t', after⟩ := poised.frame framed
    obtain ⟨-, rfl⟩ := Bench.told_eq_ok late
    exact .on (beq_eq_false_iff_ne.1 asked) (after.clocked (.inl rfl))

variable {tempo : Tempo τ} {pacing : Pacing τ}

theorem abreast_course (course : Course bench.host tempo (m, []) n pacing s) :
    (∃ t, Abreast bench m n t s) ∧ ∀ k < n, bench.patience ≠ some k := by
  -- A turn that goes on was not asked to quit, and has completed one frame more.
  induction course with
  | begun read =>
    obtain ⟨-, rfl⟩ := Bench.told_eq_ok read
    exact ⟨⟨_, (abreast_start bench m).clocked (.inl rfl)⟩, nofun⟩
  | @turned n pacing s next u before done ih =>
    obtain ⟨⟨t, abreast⟩, patient⟩ := ih
    have passed := abreast.passed tempo pacing
    rw [done] at passed
    cases passed with
    | on still after =>
      refine ⟨⟨_, after⟩, fun k early => ?_⟩
      rcases Nat.lt_succ_iff_lt_or_eq.1 early with earlier | rfl
      · exact patient k earlier
      · exact still

theorem leaves_run (bench : Bench τ) (tempo : Tempo τ) (fuel : Nat) (maxFrames : Option Int)
    (m : Machine) :
    ∃ n t, rounds bench.host n (m, []) = .ok () t ∧
      Leaves bench fuel maxFrames n t (run bench.host tempo fuel maxFrames (m, [])) ∧
      (∀ most ∈ bench.frames maxFrames, n ≤ most) ∧
      Books m n (stateAfter (run bench.host tempo fuel maxFrames) (m, [])) := by
  obtain ⟨n, ended⟩ := ended bench.host tempo fuel maxFrames (m, [])
  unfold stateAfter
  generalize run bench.host tempo fuel maxFrames (m, []) = result at ended
  cases ended with
  | untimed read =>
    obtain ⟨-, rfl⟩ := Bench.told_eq_error read
    have begun := (abreast_start bench m).clocked (.inl rfl)
    exact ⟨0, _, begun.rounds, .refused (Bench.refused_of_now read) begun.same,
      fun _ _ => Nat.zero_le _, begun.books⟩
  | complete course all =>
    obtain ⟨⟨t, abreast⟩, patient⟩ := abreast_course course
    have few : ∀ most ∈ maxFrames.map Int.toNat, n ≤ most := by
      intro most given
      rw [all] at given
      cases given
      exact Nat.le_refl n
    exact ⟨n, t, abreast.rounds, .complete all abreast.same, le_frames few patient, abreast.books⟩
  | cutOff course inside =>
    obtain ⟨⟨t, abreast⟩, patient⟩ := abreast_course course
    have few := le_frames (fun most given => Nat.le_of_lt (inside most given)) patient
    exact ⟨fuel, t, abreast.rounds, .cutOff rfl abreast.same, few, abreast.books⟩
  | @quit n pacing s u course early inside quit =>
    obtain ⟨⟨t, abreast⟩, patient⟩ := abreast_course course
    have few := le_frames (fun most given => Nat.le_of_lt (inside most given)) patient
    have passed := abreast.passed tempo pacing
    rw [quit] at passed
    cases passed with
    | quit asked poised =>
      exact ⟨n, t, abreast.rounds, .quit asked poised.same, few, poised.books⟩
  | @failed n pacing s fault u course early inside failed =>
    obtain ⟨⟨t, abreast⟩, patient⟩ := abreast_course course
    have few := le_frames (fun most given => Nat.le_of_lt (inside most given)) patient
    -- The turn that failed has completed a frame only if it failed after it.
    have further (still : bench.patience ≠ some n) : ∀ most ∈ bench.frames maxFrames, n < most := by
      refine le_frames inside fun k late => ?_
      rcases Nat.lt_succ_iff_lt_or_eq.1 late with earlier | rfl
      · exact patient k earlier
      · exact still
    have passed := abreast.passed tempo pacing
    rw [failed] at passed
    cases passed with
    | refused refused after =>
      exact ⟨n, t, after.rounds, .refused refused after.same, few, after.books⟩
    | halted still books stepped same =>
      exact ⟨n, t, abreast.rounds, .halted (further still) stepped same, few, books⟩
    | refusedAfter still refused after =>
      exact ⟨n + 1, _, after.rounds, .refused refused after.same, further still, after.books⟩

/-- A run on a bench, with any clock, is as many rounds of a look at the keys and a frame as it
completed frames: that is what it leaves, but for the counts of its reports, and what it sounds and
shows, one picture for each frame. A host that asks to quit has looked once more, and a step that
fails does so after that look; else nothing but the clock fails. The run completes no
more frames than it is asked for, nor more than there are looks before the host asks to quit, and
ends after exactly so many if neither the clock nor a step fails before. What it reports, and what
is still to be reported, are all its frames and all their steps. -/
theorem run_alternates (bench : Bench τ) (tempo : Tempo τ) (fuel : Nat) (maxFrames : Option Int)
    (m : Machine) :
    let result := run bench.host tempo fuel maxFrames (m, [])
    let s := stateAfter (run bench.host tempo fuel maxFrames) (m, [])
    ∃ n t, rounds bench.host n (m, []) = .ok () t ∧
      Leaves bench fuel maxFrames n t result ∧
      (∀ most ∈ bench.frames maxFrames, n ≤ most) ∧
      (∀ most ∈ bench.frames maxFrames, most < fuel → bench.Timely →
        (∃ u, rounds bench.host most (m, []) = .ok () u) →
          n = most ∧ ∃ ending, result = .ok ending s ∧ ending ≠ .cutOff) ∧
      (∀ other : Bench τ, other.keys = bench.keys → other.patience = bench.patience →
        rounds other.host n (m, []) = .ok () t) ∧
      s.1.frames = m.frames + n ∧
      s.2.filterMap Event.picture? = pictures bench m n ∧
      Books m n s := by
  intro result s
  obtain ⟨n, t, done, leaves, few, books⟩ := leaves_run bench tempo fuel maxFrames m
  refine ⟨n, t, done, leaves, few, ?_, ?_, ?_, ?_, books⟩
  · intro most given enough timely sound
    obtain ⟨same, ending, u, ended, finished⟩ :=
      leaves.all done few given enough timely sound
    have left : s = u := stateAfter_of_ok ended
    exact ⟨same, ending, left ▸ ended, finished⟩
  · intro other keys patience
    rw [rounds_timeless keys patience, done]
  · exact (leaves.tally done).1
  · exact (leaves.tally done).2

def leisurely : Bench Int where
  reading k := .ok (10 * k)
  sleep _ := .ok ()
  keys _ latch := latch
  patience := none

def sixtieths : Tempo Int where
  frame := 1
  report := 60

def waiting (each : Int) : Machine :=
  { new { stepsPerFrame := each } [] (Noise.cycle #[]) with processor.phase := .awaitingKey }

def impatient : Bench Int :=
  { leisurely with patience := some 3 }

theorem rounds_impatient : ∃ u, rounds impatient.host 3 (waiting 2, []) = .ok () u := by
  have fine : faultOf (rounds impatient.host 3) (waiting 2, []) = none := by decide +kernel
  unfold faultOf at fine
  cases done : rounds impatient.host 3 (waiting 2, []) with
  | ok value u => exact ⟨u, rfl⟩
  | error fault u =>
    rw [done] at fine
    cases fine

theorem run_alternates_impatient :
    impatient.Timely ∧ 3 ∈ impatient.frames (some 5) ∧
      (∃ u, rounds impatient.host 3 (waiting 2, []) = .ok () u) ∧
      ∃ ending s, run impatient.host sixtieths 9 (some 5) (waiting 2, []) = .ok ending s ∧
        ending ≠ .cutOff ∧ s.1.frames = 3 := by
  have timely : impatient.Timely := ⟨fun k => ⟨_, rfl⟩, fun _ => rfl⟩
  have most : 3 ∈ impatient.frames (some 5) := by decide
  obtain ⟨n, t, -, -, -, complete, -, frames, -⟩ :=
    run_alternates impatient sixtieths 9 (some 5) (waiting 2)
  obtain ⟨same, ending, ended, whole⟩ := complete 3 most (by decide) timely rounds_impatient
  have counted : (waiting 2).frames + n = 3 := by
    rw [same]
    rfl
  exact ⟨timely, most, rounds_impatient, ending, _, ended, whole, frames.trans counted⟩

end Machine

end Chip8
