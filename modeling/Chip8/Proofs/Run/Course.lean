import Chip8.Proofs.History

namespace Chip8

section

variable {ε σ α β : Type} {action : EStateM ε σ α} {next : α → EStateM ε σ β} {s t u : σ}

theorem bind_of_ok {a : α} (done : action s = .ok a t) : (action >>= next) s = next a t := by
  change EStateM.bind action next s = _
  unfold EStateM.bind
  rw [done]

theorem bind_of_error {fault : ε} (failed : action s = .error fault t) :
    (action >>= next) s = .error fault t := by
  change EStateM.bind action next s = _
  unfold EStateM.bind
  rw [failed]

theorem ok_of_bind {b : β} (done : (action >>= next) s = .ok b u) :
    ∃ a t, action s = .ok a t ∧ next a t = .ok b u := by
  cases first : action s with
  | ok a t => exact ⟨a, t, rfl, (bind_of_ok first).symm.trans done⟩
  | error fault t =>
    have same : (action >>= next) s = .error fault t := bind_of_error first
    cases same.symm.trans done

theorem error_of_bind {fault : ε} (failed : (action >>= next) s = .error fault u) :
    action s = .error fault u ∨ ∃ a t, action s = .ok a t ∧ next a t = .error fault u := by
  cases first : action s with
  | ok a t => exact .inr ⟨a, t, rfl, (bind_of_ok first).symm.trans failed⟩
  | error cause t =>
    have same : (action >>= next) s = .error cause t := bind_of_error first
    cases same.symm.trans failed
    exact .inl rfl

end

namespace Session

variable {σ α : Type} {action : EStateM Fault σ α} {s : Machine × σ} {world : σ}

theorem host_of_ok {a : α} (done : action s.2 = .ok a world) :
    host action s = .ok a (s.1, world) := by
  obtain ⟨m, before⟩ := s
  unfold host
  dsimp only at done ⊢
  rw [done]

theorem host_of_error {fault : Fault} (failed : action s.2 = .error fault world) :
    host action s = .error fault (s.1, world) := by
  obtain ⟨m, before⟩ := s
  unfold host
  dsimp only at failed ⊢
  rw [failed]

variable {change : EStateM Fault Machine α} {m : Machine}

theorem machine_of_ok {a : α} (done : change s.1 = .ok a m) :
    machine change s = .ok a (m, s.2) := by
  obtain ⟨before, world⟩ := s
  unfold machine
  dsimp only at done ⊢
  rw [done]

theorem machine_of_error {fault : Fault} (failed : change s.1 = .error fault m) :
    machine change s = .error fault (m, s.2) := by
  obtain ⟨before, world⟩ := s
  unfold machine
  dsimp only at failed ⊢
  rw [failed]

end Session

namespace Machine

variable {τ σ : Type}

def frameSteps : EStateM Fault Machine Unit := fun m =>
  steps m.settings.stepsPerFrame.toNat m

theorem frame_of_failed {host : Host τ σ} {s : Machine × σ} {m : Machine} {fault : Fault}
    (failed : frameSteps s.1 = .error fault m) : frame host s = .error fault (m, s.2) := by
  change (Session.machine frameSteps >>= fun _ => do
    tick host
    refresh host
    Session.machine (modify countFrame)) s = _
  exact bind_of_error (Session.machine_of_error failed)

section

variable [Add τ] [LT τ] [LE τ] [DecidableLT τ] [DecidableLE τ]
variable {host : Host τ σ} {tempo : Tempo τ} {pacing next : Pacing τ} {s t : Machine × σ} {now : τ}

theorem openTurn_of_quit
    (before : beforeFrame host tempo pacing now s = .ok (true, next) t) :
    openTurn host tempo pacing now s = .ok (true, next) t := by
  unfold openTurn
  rw [bind_of_ok before]
  rfl

theorem openTurn_of_frame
    (before : beforeFrame host tempo pacing now s = .ok (false, next) t) :
    openTurn host tempo pacing now s =
      (frame host >>= fun _ => pure (false, next.afterFrame tempo now)) t := by
  unfold openTurn
  rw [bind_of_ok before]
  rfl

end

section

variable [Sub τ] [LT τ] [DecidableLT τ] [OfNat τ 0]
variable {host : Host τ σ} {next : Pacing τ} {u : Machine × σ} {after rest : τ}
variable {later last : σ} {fault : Fault}

def closeTurn (host : Host τ σ) (pacing : Pacing τ) : Session σ (Option (Pacing τ)) := do
  let after ← Session.host host.now
  match pacing.pause after with
  | some rest => Session.host (host.sleep rest)
  | none => pure ()
  return some pacing

theorem closeTurn_of_slept (late : host.now u.2 = .ok after later)
    (early : next.pause after = some rest) (slept : host.sleep rest later = .ok () last) :
    closeTurn host next u = .ok (some next) (u.1, last) := by
  unfold closeTurn
  rw [bind_of_ok (Session.host_of_ok late)]
  simp only [early]
  exact bind_of_ok (Session.host_of_ok (s := (u.1, later)) slept)

theorem closeTurn_of_sleepless (late : host.now u.2 = .ok after later)
    (early : next.pause after = some rest) (slept : host.sleep rest later = .error fault last) :
    closeTurn host next u = .error fault (u.1, last) := by
  unfold closeTurn
  rw [bind_of_ok (Session.host_of_ok late)]
  simp only [early]
  exact bind_of_error (Session.host_of_error (s := (u.1, later)) slept)

theorem closeTurn_of_due (late : host.now u.2 = .ok after later)
    (due : next.pause after = none) : closeTurn host next u = .ok (some next) (u.1, later) := by
  unfold closeTurn
  rw [bind_of_ok (Session.host_of_ok late)]
  simp only [due]
  rfl

end

variable [Add τ] [Sub τ] [LT τ] [LE τ] [DecidableLT τ] [DecidableLE τ] [OfNat τ 0]

/-- What a turn can come to: the clock may refuse to be read, what comes before the frame may fail
or ask to quit, the frame may fail, and after it the clock or the sleep may; or the run goes on. -/
inductive Turned (host : Host τ σ) (tempo : Tempo τ) (pacing : Pacing τ) (s : Machine × σ) :
    EStateM.Result Fault (Machine × σ) (Option (Pacing τ)) → Prop where
  | untimed {fault world} (read : host.now s.2 = .error fault world) :
      Turned host tempo pacing s (.error fault (s.1, world))
  | spoilt {now world fault t} (read : host.now s.2 = .ok now world)
      (before : beforeFrame host tempo pacing now (s.1, world) = .error fault t) :
      Turned host tempo pacing s (.error fault t)
  | quit {now world next t} (read : host.now s.2 = .ok now world)
      (before : beforeFrame host tempo pacing now (s.1, world) = .ok (true, next) t) :
      Turned host tempo pacing s (.ok none t)
  | halted {now world next t fault u} (read : host.now s.2 = .ok now world)
      (before : beforeFrame host tempo pacing now (s.1, world) = .ok (false, next) t)
      (failed : frame host t = .error fault u) : Turned host tempo pacing s (.error fault u)
  | untimedAfter {now world next t u fault later} (read : host.now s.2 = .ok now world)
      (before : beforeFrame host tempo pacing now (s.1, world) = .ok (false, next) t)
      (framed : frame host t = .ok () u) (late : host.now u.2 = .error fault later) :
      Turned host tempo pacing s (.error fault (u.1, later))
  | sleepless {now world next t u after later rest fault last}
      (read : host.now s.2 = .ok now world)
      (before : beforeFrame host tempo pacing now (s.1, world) = .ok (false, next) t)
      (framed : frame host t = .ok () u) (late : host.now u.2 = .ok after later)
      (early : (next.afterFrame tempo now).pause after = some rest)
      (slept : host.sleep rest later = .error fault last) :
      Turned host tempo pacing s (.error fault (u.1, last))
  | slept {now world next t u after later rest last} (read : host.now s.2 = .ok now world)
      (before : beforeFrame host tempo pacing now (s.1, world) = .ok (false, next) t)
      (framed : frame host t = .ok () u) (late : host.now u.2 = .ok after later)
      (early : (next.afterFrame tempo now).pause after = some rest)
      (slept : host.sleep rest later = .ok () last) :
      Turned host tempo pacing s (.ok (some (next.afterFrame tempo now)) (u.1, last))
  | hurried {now world next t u after later} (read : host.now s.2 = .ok now world)
      (before : beforeFrame host tempo pacing now (s.1, world) = .ok (false, next) t)
      (framed : frame host t = .ok () u) (late : host.now u.2 = .ok after later)
      (due : (next.afterFrame tempo now).pause after = none) :
      Turned host tempo pacing s (.ok (some (next.afterFrame tempo now)) (u.1, later))

/-- Between two turns: after so many of them the run has come to a session, which is due to go on
as its pacing says. -/
inductive Course (host : Host τ σ) (tempo : Tempo τ) (start : Machine × σ) :
    Nat → Pacing τ → Machine × σ → Prop where
  | begun {now world} (read : host.now start.2 = .ok now world) :
      Course host tempo start 0 (Pacing.start tempo now) (start.1, world)
  | turned {n pacing s next t} (before : Course host tempo start n pacing s)
      (done : turn host tempo pacing s = .ok (some next) t) :
      Course host tempo start (n + 1) next t

inductive Ended (host : Host τ σ) (tempo : Tempo τ) (fuel : Nat) (limit : Option Nat)
    (start : Machine × σ) : Nat → EStateM.Result Fault (Machine × σ) Ending → Prop where
  | untimed {fault world} (read : host.now start.2 = .error fault world) :
      Ended host tempo fuel limit start 0 (.error fault (start.1, world))
  | complete {n pacing s} (course : Course host tempo start n pacing s) (all : limit = some n) :
      Ended host tempo fuel limit start n (.ok .complete s)
  | cutOff {pacing s} (course : Course host tempo start fuel pacing s)
      (inside : ∀ most ∈ limit, fuel < most) :
      Ended host tempo fuel limit start fuel (.ok .cutOff s)
  | quit {n pacing s t} (course : Course host tempo start n pacing s) (early : n < fuel)
      (inside : ∀ most ∈ limit, n < most) (quit : turn host tempo pacing s = .ok none t) :
      Ended host tempo fuel limit start n (.ok .quit t)
  | failed {n pacing s fault t} (course : Course host tempo start n pacing s) (early : n < fuel)
      (inside : ∀ most ∈ limit, n < most) (failed : turn host tempo pacing s = .error fault t) :
      Ended host tempo fuel limit start n (.error fault t)

variable {host : Host τ σ} {tempo : Tempo τ} {pacing next : Pacing τ} {s t u : Machine × σ}
variable {now : τ} {world : σ} {fault : Fault}

theorem turn_of_opened {quit : Bool} (read : host.now s.2 = .ok now world)
    (opened : openTurn host tempo pacing now (s.1, world) = .ok (quit, next) t) :
    turn host tempo pacing s = (if quit then pure none else closeTurn host next) t := by
  unfold turn
  rw [bind_of_ok (Session.host_of_ok read), bind_of_ok opened]
  rfl

theorem turn_of_halted (read : host.now s.2 = .ok now world)
    (before : beforeFrame host tempo pacing now (s.1, world) = .ok (false, next) t)
    (failed : frame host t = .error fault u) :
    turn host tempo pacing s = .error fault u := by
  unfold turn
  rw [bind_of_ok (Session.host_of_ok read)]
  refine bind_of_error ?_
  rw [openTurn_of_frame before, bind_of_error failed]

theorem turned (host : Host τ σ) (tempo : Tempo τ) (pacing : Pacing τ) (s : Machine × σ) :
    Turned host tempo pacing s (turn host tempo pacing s) := by
  cases read : host.now s.2 with
  | error fault world =>
    have failed : turn host tempo pacing s = .error fault (s.1, world) :=
      bind_of_error (Session.host_of_error read)
    rw [failed]
    exact .untimed read
  | ok now world =>
    cases before : beforeFrame host tempo pacing now (s.1, world) with
    | error fault t =>
      have opened : openTurn host tempo pacing now (s.1, world) = .error fault t :=
        bind_of_error before
      have failed : turn host tempo pacing s = .error fault t :=
        (bind_of_ok (Session.host_of_ok read)).trans (bind_of_error opened)
      rw [failed]
      exact .spoilt read before
    | ok answer t =>
      obtain ⟨quit, next⟩ := answer
      cases quit with
      | true =>
        rw [turn_of_opened read (openTurn_of_quit before)]
        exact .quit read before
      | false =>
        cases framed : frame host t with
        | error fault u =>
          rw [turn_of_halted read before framed]
          exact .halted read before framed
        | ok value u =>
          rw [turn_of_opened read ((openTurn_of_frame before).trans (bind_of_ok framed))]
          change Turned host tempo pacing s (closeTurn host (next.afterFrame tempo now) u)
          cases late : host.now u.2 with
          | error fault later =>
            have failed :
                closeTurn host (next.afterFrame tempo now) u = .error fault (u.1, later) :=
              bind_of_error (Session.host_of_error late)
            rw [failed]
            exact .untimedAfter read before framed late
          | ok after later =>
            cases early : (next.afterFrame tempo now).pause after with
            | none =>
              rw [closeTurn_of_due late early]
              exact .hurried read before framed late early
            | some rest =>
              cases slept : host.sleep rest later with
              | error fault last =>
                rw [closeTurn_of_sleepless late early slept]
                exact .sleepless read before framed late early slept
              | ok value last =>
                rw [closeTurn_of_slept late early slept]
                exact .slept read before framed late early slept

variable {start : Machine × σ} {n : Nat}

theorem turns_succ (fuel : Nat) {left : Option Nat} (more : left ≠ some 0) :
    turns host tempo (fuel + 1) left pacing = (turn host tempo pacing >>= fun
      | none => pure .quit
      | some next => turns host tempo fuel (left.map (· - 1)) next) := by
  cases left with
  | none => rfl
  | some frames =>
    cases frames with
    | zero => exact absurd rfl more
    | succ frames => rfl

theorem ended_turns (course : Course host tempo start n pacing s) (fuel : Nat)
    (left : Option Nat) :
    ∃ k, Ended host tempo (n + fuel) (left.map (n + ·)) start k
      (turns host tempo fuel left pacing s) := by
  induction fuel generalizing n pacing s left with
  | zero =>
    cases left with
    | none => exact ⟨n, .cutOff course nofun⟩
    | some frames =>
      cases frames with
      | zero => exact ⟨n, .complete course rfl⟩
      | succ frames =>
        refine ⟨n, .cutOff course ?_⟩
        rintro most ⟨⟩
        change n < n + (frames + 1)
        omega
  | succ fuel ih =>
    by_cases spent : left = some 0
    · rw [spent]
      exact ⟨n, .complete course rfl⟩
    · have inside : ∀ most ∈ left.map (n + ·), n < most := by
        intro most given
        obtain ⟨frames, same, rfl⟩ := Option.map_eq_some_iff.1 given
        have positive : frames ≠ 0 := fun zero => spent (zero ▸ same)
        omega
      rw [turns_succ fuel spent]
      cases done : turn host tempo pacing s with
      | error fault t =>
        rw [bind_of_error done]
        exact ⟨n, .failed course (by omega) inside done⟩
      | ok answer t =>
        rw [bind_of_ok done]
        cases answer with
        | none => exact ⟨n, .quit course (by omega) inside done⟩
        | some next =>
          obtain ⟨k, ended⟩ := ih (course.turned done) (left.map (· - 1))
          have limit : (left.map (· - 1)).map (n + 1 + ·) = left.map (n + ·) := by
            rw [Option.map_map]
            refine Option.map_congr fun frames same => ?_
            have positive : frames ≠ 0 := fun zero => spent (zero ▸ same)
            simp only [Function.comp_apply]
            omega
          rw [limit, Nat.add_assoc, Nat.add_comm 1 fuel] at ended
          exact ⟨k, ended⟩

theorem ended (host : Host τ σ) (tempo : Tempo τ) (fuel : Nat) (maxFrames : Option Int)
    (start : Machine × σ) :
    ∃ n, Ended host tempo fuel (maxFrames.map Int.toNat) start n
      (run host tempo fuel maxFrames start) := by
  cases read : host.now start.2 with
  | error fault world =>
    have failed : run host tempo fuel maxFrames start = .error fault (start.1, world) :=
      bind_of_error (Session.host_of_error read)
    rw [failed]
    exact ⟨0, .untimed read⟩
  | ok now world =>
    have begun : run host tempo fuel maxFrames start =
        turns host tempo fuel (maxFrames.map Int.toNat) (Pacing.start tempo now) (start.1, world) :=
      bind_of_ok (Session.host_of_ok read)
    have course : Course host tempo start 0 (Pacing.start tempo now) (start.1, world) := .begun read
    obtain ⟨n, ended⟩ := ended_turns course fuel (maxFrames.map Int.toNat)
    rw [begun]
    simp only [Nat.zero_add, Option.map_id'] at ended
    exact ⟨n, ended⟩

theorem run_eq_turns (course : Course host tempo start n pacing s) {fuel : Nat}
    {maxFrames : Option Int} (enough : n ≤ fuel)
    (inside : ∀ most ∈ maxFrames.map Int.toNat, n ≤ most) :
    run host tempo fuel maxFrames start =
      turns host tempo (fuel - n) ((maxFrames.map Int.toNat).map (· - n)) pacing s := by
  induction course with
  | begun read =>
    simp only [Nat.sub_zero, Option.map_id']
    exact bind_of_ok (Session.host_of_ok read)
  | @turned n pacing s next t before done ih =>
    have earlier := ih (by omega) fun most given => Nat.le_of_succ_le (inside most given)
    have more : (maxFrames.map Int.toNat).map (· - n) ≠ some 0 := by
      intro spent
      obtain ⟨most, given, zero⟩ := Option.map_eq_some_iff.1 spent
      have room := inside most given
      omega
    have fuels : fuel - n = fuel - (n + 1) + 1 := by omega
    rw [earlier, fuels, turns_succ _ more, bind_of_ok done, Option.map_map]
    rfl

theorem run_of_failed (course : Course host tempo start n pacing s) {fuel : Nat}
    {maxFrames : Option Int} (enough : n < fuel)
    (inside : ∀ most ∈ maxFrames.map Int.toNat, n < most)
    (failed : turn host tempo pacing s = .error fault t) :
    run host tempo fuel maxFrames start = .error fault t := by
  have through := run_eq_turns course (Nat.le_of_lt enough)
    fun most given => Nat.le_of_lt (inside most given)
  have more : (maxFrames.map Int.toNat).map (· - n) ≠ some 0 := by
    intro spent
    obtain ⟨most, given, zero⟩ := Option.map_eq_some_iff.1 spent
    have room := inside most given
    omega
  have fuels : fuel - n = fuel - n - 1 + 1 := by omega
  rw [through, fuels, turns_succ _ more]
  exact bind_of_error failed

end Machine

end Chip8
