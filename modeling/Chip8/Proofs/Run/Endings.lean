import Chip8.Proofs.Run.Course

namespace Chip8

section

variable {τ σ : Type}

inductive Host.Raises (host : Host τ σ) (fault : Fault) : Prop where
  | now {world next} (failed : host.now world = .error fault next)
  | sleep {rest world next} (failed : host.sleep rest world = .error fault next)
  | poll {keypad world next} (failed : host.poll keypad world = .error fault next)
  | present {picture world next} (failed : host.present picture world = .error fault next)
  | title {text world next} (failed : host.title text world = .error fault next)
  | tone {world next} (failed : host.tone world = .error fault next)

/-- What survives what a run asks of its host between two readings of the clock. -/
structure Host.Steady (host : Host τ σ) (P : σ → Prop) : Prop where
  poll : ∀ keypad, Keeps P (host.poll keypad)
  present : ∀ picture, Keeps P (host.present picture)
  title : ∀ text, Keeps P (host.title text)
  tone : Keeps P host.tone

structure Host.Invariant (host : Host τ σ) (P : σ → Prop) : Prop extends Host.Steady host P where
  now : Keeps P host.now
  sleep : ∀ rest, Keeps P (host.sleep rest)

end

theorem Keeps.of_ok {ε σ α : Type} {P : σ → Prop} {action : EStateM ε σ α} {s t : σ} {a : α}
    (keeps : Keeps P action) (done : action s = .ok a t) (holds : P s) : P t := by
  have left := keeps s holds
  rwa [stateAfter_of_ok done] at left

namespace Session

variable {σ α : Type} {P : σ → Prop}

theorem keeps_world (action : EStateM Fault Machine α) :
    Keeps (fun s : Machine × σ => P s.2) (machine action) := by
  intro s holds
  rw [stateAfter_machine]
  exact holds

theorem keeps_host {action : EStateM Fault σ α} (kept : Keeps P action) :
    Keeps (fun s : Machine × σ => P s.2) (host action) := by
  intro s holds
  rw [stateAfter_host]
  exact kept s.2 holds

variable {action : EStateM Fault σ α} {s t : Machine × σ} {fault : Fault}

theorem ok_of_host {a : α} (done : host action s = .ok a t) :
    ∃ world, action s.2 = .ok a world ∧ t = (s.1, world) := by
  obtain ⟨m, world⟩ := s
  unfold host at done
  dsimp only at done ⊢
  cases acted : action world with
  | ok value next =>
    rw [acted] at done
    cases done
    exact ⟨next, rfl, rfl⟩
  | error fault next =>
    rw [acted] at done
    cases done

theorem error_of_host (failed : host action s = .error fault t) :
    action s.2 = .error fault t.2 ∧ t.1 = s.1 := by
  obtain ⟨m, world⟩ := s
  unfold host at failed
  dsimp only at failed ⊢
  cases done : action world with
  | ok value next =>
    rw [done] at failed
    cases failed
  | error cause next =>
    rw [done] at failed
    cases failed
    exact ⟨rfl, rfl⟩

theorem error_of_machine {change : EStateM Fault Machine α}
    (failed : machine change s = .error fault t) :
    change s.1 = .error fault t.1 ∧ t.2 = s.2 := by
  obtain ⟨m, world⟩ := s
  unfold machine at failed
  dsimp only at failed ⊢
  cases done : change m with
  | ok value next =>
    rw [done] at failed
    cases failed
  | error cause next =>
    rw [done] at failed
    cases failed
    exact ⟨rfl, rfl⟩

end Session

namespace Machine

variable {τ σ : Type}

structure SteadySession (host : Host τ σ) (P : Machine × σ → Prop) : Prop where
  report : Keeps P (report host)
  look : Keeps P (pollHost host)
  frame : Keeps P (frame host)

structure SessionInvariant (host : Host τ σ) (P : Machine × σ → Prop) : Prop
    extends SteadySession host P where
  now : Keeps P (Session.host host.now)
  sleep : ∀ rest, Keeps P (Session.host (host.sleep rest))

theorem steps_eq_error_iff {n : Nat} {m next : Machine} {fault : Fault} :
    steps n m = .error fault next ↔
      ∃ j, j < n ∧ ∃ m₀, steps j m = .ok () m₀ ∧ step m₀ = .error fault next := by
  induction n generalizing m with
  | zero =>
    constructor
    · intro failed
      cases failed
    · rintro ⟨j, early, -⟩
      omega
  | succ n ih =>
    constructor
    · intro failed
      rcases error_of_bind failed with first | ⟨_, m', first, later⟩
      · exact ⟨0, by omega, m, rfl, first⟩
      · obtain ⟨j, early, m₀, before, last⟩ := ih.1 later
        exact ⟨j + 1, by omega, m₀, (bind_of_ok first).trans before, last⟩
    · rintro ⟨j, early, m₀, before, last⟩
      cases j with
      | zero =>
        cases before
        exact bind_of_error last
      | succ j =>
        obtain ⟨_, m', first, later⟩ := ok_of_bind before
        exact (bind_of_ok first).trans (ih.2 ⟨j, by omega, m₀, later, last⟩)

inductive Breaks (left : Machine) : Fault → Prop where
  | stackOverflow : Breaks left .stackOverflow
  | stackUnderflow : Breaks left .stackUnderflow
  | reservedWrite (address : Nat) : Breaks left (.reservedWrite address)
  | unmappedOpcode : Breaks left
      (.unmappedOpcode (left.crashReport "Opcode is not part of the CHIP-8 instruction set"))

theorem breaks_storeAll {memory : Memory} {address : Int} {bytes : List UInt8} {fault : Fault}
    (failed : (memory.storeAll address bytes).2 = some fault) (left : Machine) :
    Breaks left fault := by
  induction bytes generalizing memory address with
  | nil => cases failed
  | cons value values ih =>
    unfold Memory.storeAll at failed
    cases stored : memory.store address value with
    | ok next =>
      rw [stored] at failed
      exact ih failed
    | error cause =>
      rw [stored] at failed
      cases failed
      unfold Memory.store at stored
      split at stored
      · cases stored
        exact .reservedWrite _
      · cases stored

theorem breaks_execute {instruction : Instruction} {m left : Machine} {fault : Fault}
    (failed : execute instruction m = .error fault left) :
    left.processor = m.processor ∧ Breaks left fault := by
  cases instruction with
  | ret =>
    change returnBack m = _ at failed
    unfold returnBack at failed
    cases popped : m.stack.pop with
    | ok top =>
      rw [popped] at failed
      cases failed
    | error cause =>
      rw [popped] at failed
      cases failed
      rw [(CallStack.pop_eq_error_iff.1 popped).2]
      exact ⟨rfl, .stackUnderflow⟩
  | call target =>
    change callTo target m = _ at failed
    unfold callTo at failed
    cases pushed : m.stack.push m.processor.pc with
    | ok stack =>
      rw [pushed] at failed
      cases failed
    | error cause =>
      rw [pushed] at failed
      cases failed
      rw [(CallStack.push_eq_error_iff.1 pushed).2]
      exact ⟨rfl, .stackOverflow⟩
  | storeDecimal x =>
    change storeAtIndex (decimalDigits (m.register x)) m = _ at failed
    rw [storeAtIndex_eq] at failed
    cases stored : (m.memory.storeAll m.processor.i (decimalDigits (m.register x))).2 with
    | none =>
      rw [stored] at failed
      cases failed
    | some cause =>
      rw [stored] at failed
      cases failed
      exact ⟨rfl, breaks_storeAll stored _⟩
  | storeRegisters x =>
    rw [execute_storeRegisters] at failed
    cases stored : (m.memory.storeAll m.processor.i (m.registersUpTo x)).2 with
    | none =>
      rw [stored] at failed
      cases failed
    | some cause =>
      rw [stored] at failed
      cases failed
      exact ⟨rfl, breaks_storeAll stored _⟩
  | unmapped word =>
    change passUnmapped m = _ at failed
    unfold passUnmapped at failed
    split at failed
    · cases failed
      exact ⟨rfl, .unmappedOpcode⟩
    · cases failed
  | _ => cases failed

theorem breaks_step {m left : Machine} {fault : Fault} (failed : step m = .error fault left) :
    left.processor.opcode = m.memory.word m.processor.pc ∧
      left.processor.fetchedAt = m.processor.pc ∧ Breaks left fault := by
  unfold step at failed
  cases phase : m.processor.phase with
  | awaitingKey =>
    rw [phase] at failed
    cases failed
  | running =>
    rw [phase] at failed
    obtain ⟨kept, breaks⟩ := breaks_execute failed
    -- A line printed about the instruction leaves the processor as it is.
    have traced (instruction : Instruction) :
        (m.fetched.traced instruction).processor = m.fetched.processor := by
      unfold Machine.traced
      split <;> rfl
    rw [traced] at kept
    exact ⟨congrArg Processor.opcode kept, congrArg Processor.fetchedAt kept, breaks⟩

section

variable {host : Host τ σ} {P : σ → Prop} {s t : Machine × σ} {fault : Fault}

theorem steady_tick (steady : host.Steady P) :
    Keeps (fun s : Machine × σ => P s.2) (tick host) := by
  refine Keeps.bind Keeps.get fun _ => Keeps.bind (Session.keeps_world _) fun _ => ?_
  split
  · exact Session.keeps_host steady.tone
  · exact Keeps.pure ()

theorem steady_frame (steady : host.Steady P) :
    Keeps (fun s : Machine × σ => P s.2) (frame host) := by
  refine Keeps.bind Keeps.get fun _ => Keeps.bind (Session.keeps_world _) fun _ => ?_
  refine Keeps.bind (steady_tick steady) fun _ => Keeps.bind ?_ fun _ => Session.keeps_world _
  exact Keeps.bind Keeps.get fun _ => Session.keeps_host (steady.present _)

theorem steady_report (steady : host.Steady P) :
    Keeps (fun s : Machine × σ => P s.2) (report host) :=
  Keeps.bind Keeps.get fun _ =>
    Keeps.bind (Session.keeps_host (steady.title _)) fun _ => Session.keeps_world _

theorem steady_pollHost (steady : host.Steady P) :
    Keeps (fun s : Machine × σ => P s.2) (pollHost host) :=
  Keeps.bind Keeps.get fun _ => Keeps.bind (Session.keeps_host (steady.poll _)) fun _ =>
    Keeps.bind (Session.keeps_world _) fun _ => Keeps.pure _

theorem steadySession_of_host (steady : host.Steady P) :
    SteadySession host fun s => P s.2 where
  report := steady_report steady
  look := steady_pollHost steady
  frame := steady_frame steady

theorem sessionInvariant_of_host (kept : host.Invariant P) :
    SessionInvariant host fun s => P s.2 where
  toSteadySession := steadySession_of_host kept.toSteady
  now := Session.keeps_host kept.now
  sleep rest := Session.keeps_host (kept.sleep rest)

theorem error_of_frame (failed : frame host s = .error fault t) :
    (frameSteps s.1 = .error fault t.1 ∧ t.2 = s.2) ∨ host.Raises fault := by
  change (Session.machine frameSteps >>= fun _ => do
    tick host
    refresh host
    Session.machine (modify countFrame)) s = _ at failed
  rcases error_of_bind failed with stepped | ⟨_, u, -, settled⟩
  · exact .inl (Session.error_of_machine stepped)
  right
  rcases error_of_bind settled with ticked | ⟨_, v, -, shown⟩
  · change (if u.1.timers.toneDue then Session.host host.tone else pure ())
      ({ u.1 with timers := u.1.timers.tick }, u.2) = _ at ticked
    split at ticked
    · exact .tone (Session.error_of_host ticked).1
    · cases ticked
  · rcases error_of_bind shown with refreshed | ⟨_, w, -, counted⟩
    · change Session.host (host.present v.1.screen.frame) v = _ at refreshed
      exact .present (Session.error_of_host refreshed).1
    · cases (Session.error_of_machine counted).1

theorem error_of_report (failed : report host s = .error fault t) : host.Raises fault := by
  change (Session.host (host.title (speedTitle s.1.reportFrames s.1.reportSteps)) >>= fun _ =>
    Session.machine (modify fun m =>
      { m with reportFrames := 0, reportSteps := 0 })) s = _ at failed
  rcases error_of_bind failed with titled | ⟨_, u, -, counted⟩
  · exact .title (Session.error_of_host titled).1
  · cases (Session.error_of_machine counted).1

theorem error_of_pollHost (failed : pollHost host s = .error fault t) : host.Raises fault := by
  change (Session.host (host.poll s.1.keypad) >>= fun answer => do
    Session.machine (modify fun m => { m with keypad := answer.2 })
    return answer.1) s = _ at failed
  rcases error_of_bind failed with polled | ⟨answer, u, -, latched⟩
  · exact .poll (Session.error_of_host polled).1
  · rcases error_of_bind latched with changed | ⟨_, v, -, returned⟩
    · cases (Session.error_of_machine changed).1
    · cases returned

end

section

variable [Add τ] [LE τ] [DecidableLE τ] {host : Host τ σ} {tempo : Tempo τ} {pacing : Pacing τ}
variable {next : Pacing τ} {now : τ} {s t : Machine × σ} {fault : Fault} {quit : Bool}
variable {P : σ → Prop}

theorem SteadySession.beforeFrame {P : Machine × σ → Prop} (steady : SteadySession host P) :
    Keeps P (beforeFrame host tempo pacing now) := by
  unfold Machine.beforeFrame
  cases pacing.reportDue now with
  | false => exact Keeps.bind steady.look fun _ => Keeps.pure _
  | true =>
    exact Keeps.bind steady.report fun _ => Keeps.bind steady.look fun _ => Keeps.pure _

theorem SteadySession.openTurn [LT τ] [DecidableLT τ] {P : Machine × σ → Prop}
    (steady : SteadySession host P) : Keeps P (openTurn host tempo pacing now) := by
  refine Keeps.bind steady.beforeFrame fun (quit, next) => ?_
  cases quit with
  | true => exact Keeps.pure _
  | false => exact Keeps.bind steady.frame fun _ => Keeps.pure _

theorem error_of_beforeFrame (failed : beforeFrame host tempo pacing now s = .error fault t) :
    host.Raises fault := by
  have polled {next : Pacing τ} {s : Machine × σ}
      (failed : (pollHost host >>= fun quit => pure (quit, next)) s = .error fault t) :
      host.Raises fault := by
    rcases error_of_bind failed with failed | ⟨_, u, -, returned⟩
    · exact error_of_pollHost failed
    · cases returned
  unfold beforeFrame at failed
  cases due : pacing.reportDue now with
  | false =>
    simp only [due] at failed
    exact polled failed
  | true =>
    simp only [due, if_true] at failed
    rcases error_of_bind failed with reported | ⟨_, u, -, later⟩
    · exact error_of_report reported
    · exact polled later

theorem pollHost_of_beforeFrame
    (before : beforeFrame host tempo pacing now s = .ok (quit, next) t) :
    ∃ u, pollHost host u = .ok quit t := by
  have polled {other : Pacing τ} {s : Machine × σ}
      (done : (pollHost host >>= fun quit => pure (quit, other)) s = .ok (quit, next) t) :
      pollHost host s = .ok quit t := by
    obtain ⟨answer, u, asked, returned⟩ := ok_of_bind done
    cases returned
    exact asked
  unfold beforeFrame at before
  cases due : pacing.reportDue now with
  | false =>
    simp only [due] at before
    exact ⟨s, polled before⟩
  | true =>
    simp only [due, if_true] at before
    obtain ⟨_, u, -, later⟩ := ok_of_bind before
    exact ⟨u, polled later⟩

theorem keeps_runFailing (kept : host.Invariant P) :
    Keeps (fun s : Machine × σ => P s.2) (runFailing host tempo fault) := by
  refine Keeps.bind (Session.keeps_host kept.now) fun _ => ?_
  refine Keeps.bind (Session.keeps_host kept.now) fun _ => ?_
  refine Keeps.bind (steadySession_of_host kept.toSteady).beforeFrame fun (quit, next) => ?_
  cases quit with
  | true => exact Keeps.pure _
  | false => exact fun _ holds => holds

theorem error_of_runFailing {cause : Fault}
    (failed : runFailing host tempo cause s = .error fault t) :
    fault = cause ∨ host.Raises fault := by
  rcases error_of_bind failed with read | ⟨began, u, -, failed⟩
  · exact .inr (.now (Session.error_of_host read).1)
  rcases error_of_bind failed with read | ⟨now, v, -, failed⟩
  · exact .inr (.now (Session.error_of_host read).1)
  rcases error_of_bind failed with before | ⟨⟨quit, next⟩, w, -, failed⟩
  · exact .inr (error_of_beforeFrame before)
  cases quit with
  | true => cases failed
  | false =>
    cases failed
    exact .inl rfl

end

theorem SessionInvariant.closeTurn [Sub τ] [LT τ] [DecidableLT τ] [OfNat τ 0] {host : Host τ σ}
    {pacing : Pacing τ} {P : Machine × σ → Prop} (kept : SessionInvariant host P) :
    Keeps P (closeTurn host pacing) := by
  refine Keeps.bind kept.now fun after => ?_
  cases pacing.pause after with
  | none => exact Keeps.pure _
  | some rest => exact Keeps.bind (kept.sleep rest) fun _ => Keeps.pure _

variable [Add τ] [Sub τ] [LT τ] [LE τ] [DecidableLT τ] [DecidableLE τ] [OfNat τ 0]

/-- A run is asked to quit: after some turns, the look at the keys before a frame tells so. -/
inductive Quits (host : Host τ σ) (tempo : Tempo τ) (start t : Machine × σ) : Prop where
  | mk {n pacing s now world next} (course : Course host tempo start n pacing s)
      (read : host.now s.2 = .ok now world)
      (before : beforeFrame host tempo pacing now (s.1, world) = .ok (true, next) t)

/-- A step of a run fails: after some turns, some steps into the next frame. -/
inductive Halts (host : Host τ σ) (tempo : Tempo τ) (start : Machine × σ) (m : Machine)
    (fault : Fault) (t : Machine × σ) : Prop where
  | mk {n pacing s now world next u j} (course : Course host tempo start n pacing s)
      (read : host.now s.2 = .ok now world)
      (before : beforeFrame host tempo pacing now (s.1, world) = .ok (false, next) u)
      (inside : j < u.1.settings.stepsPerFrame.toNat) (earlier : steps j u.1 = .ok () m)
      (failed : step m = .error fault t.1) (world : t.2 = u.2)

variable {host : Host τ σ} {tempo : Tempo τ} {start s t : Machine × σ} {fault : Fault}
variable {fuel n : Nat} {maxFrames : Option Int} {pacing : Pacing τ} {P : σ → Prop}

theorem Quits.asked (quits : Quits host tempo start t) : ∃ u, pollHost host u = .ok true t := by
  obtain ⟨course, read, before⟩ := quits
  exact pollHost_of_beforeFrame before

theorem Halts.breaks {m : Machine} (halts : Halts host tempo start m fault t) :
    step m = .error fault t.1 ∧ Breaks t.1 fault := by
  obtain ⟨course, read, before, inside, earlier, failed, world⟩ := halts
  exact ⟨failed, (breaks_step failed).2.2⟩

theorem quits_of_run {ending : Ending} (done : run host tempo fuel none start = .ok ending t)
    (whole : ending ≠ .cutOff) : ending = .quit ∧ Quits host tempo start t := by
  obtain ⟨n, ended⟩ := ended host tempo fuel none start
  rw [done] at ended
  cases ended with
  | complete course all => cases all
  | cutOff course inside => exact absurd rfl whole
  | @quit n pacing s t course early inside quit =>
    have turned := turned host tempo pacing s
    rw [quit] at turned
    cases turned with
    | quit read before => exact ⟨rfl, course, read, before⟩

theorem quits_of_runFailing {ending : Ending}
    (done : runFailing host tempo fault start = .ok ending t) : Quits host tempo start t := by
  obtain ⟨began, s, first, done⟩ := ok_of_bind done
  obtain ⟨now, u, second, done⟩ := ok_of_bind done
  obtain ⟨⟨quit, next⟩, v, before, done⟩ := ok_of_bind done
  obtain ⟨earlier, begun, rfl⟩ := Session.ok_of_host first
  obtain ⟨later, read, rfl⟩ := Session.ok_of_host second
  cases quit with
  | false => cases done
  | true =>
    cases done
    exact ⟨.begun begun, read, before⟩

theorem halts_of_run (failed : run host tempo fuel maxFrames start = .error fault t) :
    (∃ m, Halts host tempo start m fault t) ∨ host.Raises fault := by
  obtain ⟨n, ended⟩ := ended host tempo fuel maxFrames start
  rw [failed] at ended
  cases ended with
  | untimed read => exact .inr (.now read)
  | @failed n pacing s fault t course early inside failed =>
    have turned := turned host tempo pacing s
    rw [failed] at turned
    cases turned with
    | untimed read => exact .inr (.now read)
    | spoilt read before => exact .inr (error_of_beforeFrame before)
    | halted read before framed =>
      rcases error_of_frame framed with ⟨stepped, world⟩ | raised
      · obtain ⟨j, inside, m, earlier, last⟩ := steps_eq_error_iff.1 stepped
        exact .inl ⟨m, course, read, before, inside, earlier, last, world⟩
      · exact .inr raised
    | untimedAfter read before framed late => exact .inr (.now late)
    | sleepless read before framed late early slept => exact .inr (.sleep slept)

theorem run_of_halts {m : Machine} (halts : Halts host tempo start m fault t)
    (enough : ∀ {n pacing s}, Course host tempo start n pacing s → n < fuel) :
    run host tempo fuel none start = .error fault t := by
  obtain ⟨course, read, before, inside, earlier, failed, world⟩ := halts
  obtain ⟨m₁, last⟩ := t
  obtain rfl : last = _ := world
  have stepped := steps_eq_error_iff.2 ⟨_, inside, m, earlier, failed⟩
  have turned := turn_of_halted read before (frame_of_failed stepped)
  exact run_of_failed course (enough course) nofun turned

section

variable {Q : Machine × σ → Prop}

theorem SessionInvariant.turn (kept : SessionInvariant host Q) :
    Keeps Q (turn host tempo pacing) := by
  refine Keeps.bind kept.now fun now => ?_
  refine Keeps.bind kept.openTurn fun (quit, next) => ?_
  cases quit with
  | true => exact Keeps.pure _
  | false => exact kept.closeTurn

theorem SessionInvariant.turns (kept : SessionInvariant host Q) (fuel : Nat) (left : Option Nat) :
    Keeps Q (turns host tempo fuel left pacing) := by
  induction fuel generalizing left pacing with
  | zero =>
    cases left with
    | none => exact Keeps.pure _
    | some frames => cases frames <;> exact Keeps.pure _
  | succ fuel ih =>
    by_cases spent : left = some 0
    · rw [spent]
      exact Keeps.pure _
    · rw [turns_succ fuel spent]
      refine Keeps.bind kept.turn fun next => ?_
      cases next with
      | none => exact Keeps.pure _
      | some next => exact ih _

theorem SessionInvariant.run (kept : SessionInvariant host Q) :
    Keeps Q (run host tempo fuel maxFrames) :=
  Keeps.bind kept.now fun _ => kept.turns fuel _

end

theorem keeps_run (kept : host.Invariant P) :
    Keeps (fun s : Machine × σ => P s.2) (run host tempo fuel maxFrames) :=
  (sessionInvariant_of_host kept).run

end Machine

end Chip8
