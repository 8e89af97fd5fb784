import Chip8.Proofs.History
import Chip8.Proofs.Lockstep

namespace Chip8

def faultOf {ε σ α : Type} (action : EStateM ε σ α) (s : σ) : Option ε :=
  match action s with
  | .ok _ _ => none
  | .error fault _ => some fault

namespace Operation

variable {τ σ : Type}

def faults (host : Host τ σ) : List Operation → Machine × σ → List (Option Fault)
  | [], _ => []
  | operation :: operations, s =>
    faultOf (operation.run host) s :: faults host operations (stateAfter (operation.run host) s)

end Operation

variable {τ τ' σ σ' α : Type} {F : Fault → Fault → Prop} {R : Machine → Machine → Prop}
variable {H : σ → σ' → Prop}

structure Host.Alike (F : Fault → Fault → Prop) (H : σ → σ' → Prop) (host : Host τ σ)
    (host' : Host τ' σ') : Prop where
  present : ∀ picture, Lockstep F H (host.present picture) (host'.present picture)
  tone : Lockstep F H host.tone host'.tone

structure Both (R : Machine → Machine → Prop) (H : σ → σ' → Prop) (s : Machine × σ)
    (s' : Machine × σ') : Prop where
  machines : R s.1 s'.1
  hosts : H s.2 s'.2

theorem Alike.faultOf {action : EStateM Fault σ α} {action' : EStateM Fault σ' α} {s : σ} {s' : σ'}
    (alike : Alike F H (action s) (action' s')) :
    Option.Rel F (faultOf action s) (Chip8.faultOf action' s') := by
  unfold Chip8.faultOf
  generalize action s = r at alike ⊢
  generalize action' s' = r' at alike ⊢
  cases alike with
  | ok value related => exact .none
  | error faults related => exact .some faults

theorem eq_of_forall₂_rel_eq {faults faults' : List (Option Fault)}
    (alike : List.Forall₂ (Option.Rel (· = ·)) faults faults') : faults = faults' := by
  induction alike with
  | nil => rfl
  | cons first _ ih =>
    cases first with
    | none => rw [ih]
    | some same => rw [same, ih]

namespace Session

variable {s : Machine × σ} {s' : Machine × σ'}

theorem alike_machine {action action' : EStateM Fault Machine α}
    (alike : Alike F R (action s.1) (action' s'.1)) (hosts : H s.2 s'.2) :
    Alike F (Both R H) (machine action s) (machine action' s') := by
  obtain ⟨m, world⟩ := s
  obtain ⟨m', world'⟩ := s'
  unfold machine
  dsimp only at alike ⊢
  generalize action m = r at alike ⊢
  generalize action' m' = r' at alike ⊢
  cases alike with
  | ok value related => exact .ok value ⟨related, hosts⟩
  | error faults related => exact .error faults ⟨related, hosts⟩

theorem alike_host {action : EStateM Fault σ α} {action' : EStateM Fault σ' α}
    (machines : R s.1 s'.1) (alike : Alike F H (action s.2) (action' s'.2)) :
    Alike F (Both R H) (host action s) (host action' s') := by
  obtain ⟨m, world⟩ := s
  obtain ⟨m', world'⟩ := s'
  unfold host
  dsimp only at alike ⊢
  generalize action world = r at alike ⊢
  generalize action' world' = r' at alike ⊢
  cases alike with
  | ok value related => exact .ok value ⟨machines, related⟩
  | error faults related => exact .error faults ⟨machines, related⟩

theorem lockstep_modify {f : Machine → Machine} (h : ∀ m m', R m m' → R (f m) (f m')) :
    Lockstep F (Both R H) (machine (modify f)) (machine (modify f)) :=
  fun _ _ both => alike_machine (.ok () (h _ _ both.machines)) both.hosts

end Session

namespace Machine

variable {m m' : Machine}

theorem lockstep_refl {F : Fault → Fault → Prop} (akin : ∀ fault, F fault fault) {σ α : Type}
    (action : EStateM Fault σ α) : Lockstep F (· = ·) action action := by
  rintro world _ rfl
  cases action world with
  | ok value next => exact .ok value rfl
  | error fault next => exact .error (akin fault) rfl

/-- A relation that also survives what is done between steps, and fixes all that a step consults. -/
structure HistoryLockstep (F : Fault → Fault → Prop) (R : Machine → Machine → Prop) : Prop
    extends StepLockstep F R where
  dialect : ∀ {m m'}, R m m' → m'.settings.dialect = m.settings.dialect
  stepsPerFrame : ∀ {m m'}, R m m' → m'.settings.stepsPerFrame = m.settings.stepsPerFrame
  keypad : ∀ {m m'}, R m m' → m'.keypad = m.keypad
  timers : ∀ {m m'}, R m m' → m'.timers = m.timers
  random : ∀ {m m'}, R m m' → m'.noise.next = m.noise.next
  load : ∀ {m m'}, R m m' → ∀ program, R { m with program }.reset { m' with program }.reset
  reset : ∀ {m m'}, R m m' → R m.reset m'.reset
  time : ∀ {m m'}, R m m' → ∀ timers, R { m with timers } { m' with timers }
  count : ∀ {m m'}, R m m' → R m.countFrame m'.countFrame
  keys : ∀ {m m'}, R m m' → ∀ keypad, R { m with keypad } { m' with keypad }

namespace HistoryLockstep

theorem consults (inv : HistoryLockstep F R) (h : R m m') (instruction : Instruction) :
    Consults m m' instruction := by
  have dialect := inv.dialect h
  have register := inv.register h
  cases instruction with
  | or | and | xor => exact congrArg Dialect.clearsFlag dialect
  | shiftRight x y | shiftLeft x y =>
    change m'.shiftOperand x y = m.shiftOperand x y
    unfold shiftOperand
    rw [dialect, register]
  | storeRegisters | loadRegisters => exact congrArg Dialect.movesIndex dialect
  | random => exact inv.random h
  | skipIfKey x | skipUnlessKey x =>
    change m'.keyDown x = m.keyDown x
    unfold keyDown
    rw [inv.keypad h, register]
  | awaitKey => exact congrArg (fun keypad => keypad.latch.firstDown) (inv.keypad h)
  | readDelay => exact congrArg Timers.delay (inv.timers h)
  | unmapped => exact congrArg Dialect.strict dialect
  | _ => trivial

theorem step (inv : HistoryLockstep F R) : Lockstep F R Machine.step Machine.step := by
  intro m m' h
  refine inv.toStepLockstep.step h ?_
  unfold StepConsults
  cases m.processor.phase with
  | awaitingKey => exact congrArg (fun keypad => keypad.latch.firstDown) (inv.keypad h)
  | running => exact inv.consults h _

theorem steps (inv : HistoryLockstep F R) (n : Nat) :
    Lockstep F R (Machine.steps n) (Machine.steps n) := by
  induction n with
  | zero => exact Lockstep.pure ()
  | succ n ih => exact inv.step.bind fun _ => ih

theorem loaded (inv : HistoryLockstep F R) (program : Array UInt8) :
    Lockstep F R (Machine.load program) (Machine.load program) := by
  intro m m' h
  unfold Machine.load
  cases Memory.checkProgram program with
  | error fault => exact .error (inv.fault fault) h
  | ok => exact .ok () (inv.load h program)

variable {host : Host τ σ} {host' : Host τ' σ'}

theorem tick (inv : HistoryLockstep F R) (hosts : Host.Alike F H host host') :
    Lockstep F (Both R H) (Machine.tick host) (Machine.tick host') := by
  intro s s' both
  have timers := inv.timers both.machines
  have ticked :
      R { s.1 with timers := s.1.timers.tick } { s'.1 with timers := s'.1.timers.tick } := by
    rw [timers]
    exact inv.time both.machines _
  change Alike F (Both R H)
    ((Session.machine (modify fun m => { m with timers := m.timers.tick }) >>= fun _ =>
      if s.1.timers.toneDue then Session.host host.tone else pure ()) s)
    ((Session.machine (modify fun m => { m with timers := m.timers.tick }) >>= fun _ =>
      if s'.1.timers.toneDue then Session.host host'.tone else pure ()) s')
  rw [timers]
  refine Alike.bind (Session.alike_machine (.ok () ticked) both.hosts) fun _ => ?_
  split
  · exact fun t t' still => Session.alike_host still.machines (hosts.tone _ _ still.hosts)
  · exact Lockstep.pure ()

theorem refresh (inv : HistoryLockstep F R) (hosts : Host.Alike F H host host') :
    Lockstep F (Both R H) (Machine.refresh host) (Machine.refresh host') := by
  intro s s' both
  have shown := hosts.present s.1.screen.frame _ _ both.hosts
  change Alike F (Both R H) (Session.host (host.present s.1.screen.frame) s)
    (Session.host (host'.present s'.1.screen.frame) s')
  rw [inv.screen both.machines]
  exact Session.alike_host both.machines shown

theorem settle (inv : HistoryLockstep F R) (hosts : Host.Alike F H host host') :
    Lockstep F (Both R H)
      (do
        Machine.tick host
        Machine.refresh host
        Session.machine (modify countFrame))
      (do
        Machine.tick host'
        Machine.refresh host'
        Session.machine (modify countFrame)) := by
  refine (inv.tick hosts).bind fun _ => (inv.refresh hosts).bind fun _ => ?_
  exact Session.lockstep_modify fun m m' h => inv.count h

theorem frame (inv : HistoryLockstep F R) (hosts : Host.Alike F H host host') :
    Lockstep F (Both R H) (Machine.frame host) (Machine.frame host') := by
  intro s s' both
  have stepped : Alike F R (Machine.steps s.1.settings.stepsPerFrame.toNat s.1)
      (Machine.steps s'.1.settings.stepsPerFrame.toNat s'.1) := by
    rw [inv.stepsPerFrame both.machines]
    exact inv.steps _ _ _ both.machines
  have framed := (Session.alike_machine stepped both.hosts).bind fun _ => inv.settle hosts
  exact framed

theorem setKey (inv : HistoryLockstep F R) (h : R m m') (symbol : String) (down : Bool) :
    R { m with keypad := m.keypad.set symbol down }
      { m' with keypad := m'.keypad.set symbol down } := by
  rw [inv.keypad h]
  exact inv.keys h _

theorem releaseAll (inv : HistoryLockstep F R) (h : R m m') :
    R { m with keypad := m.keypad.releaseAll } { m' with keypad := m'.keypad.releaseAll } := by
  rw [inv.keypad h]
  exact inv.keys h _

theorem run (inv : HistoryLockstep F R) (hosts : Host.Alike F H host host')
    (operation : Operation) :
    Lockstep F (Both R H) (operation.run host) (operation.run host') := by
  cases operation with
  | load program =>
    exact fun _ _ both => Session.alike_machine (inv.loaded program _ _ both.machines) both.hosts
  | reset => exact Session.lockstep_modify fun _ _ h => inv.reset h
  | step => exact fun _ _ both => Session.alike_machine (inv.step _ _ both.machines) both.hosts
  | tick => exact inv.tick hosts
  | frame => exact inv.frame hosts
  | setKey symbol down =>
    have kept (m m' : Machine) (h : R m m') := inv.setKey h symbol down
    exact Session.lockstep_modify kept
  | releaseAll =>
    have kept (m m' : Machine) (h : R m m') := inv.releaseAll h
    exact Session.lockstep_modify kept

theorem history (inv : HistoryLockstep F R) (hosts : Host.Alike F H host host')
    (operations : List Operation) {s : Machine × σ} {s' : Machine × σ'} (both : Both R H s s') :
    Both R H (Operation.history host operations s) (Operation.history host' operations s') ∧
      List.Forall₂ (Option.Rel F) (Operation.faults host operations s)
        (Operation.faults host' operations s') := by
  induction operations generalizing s s' with
  | nil => exact ⟨both, .nil⟩
  | cons operation operations ih =>
    have first := inv.run hosts operation s s' both
    obtain ⟨still, rest⟩ := ih first.stateAfter
    exact ⟨still, .cons first.faultOf rest⟩

end HistoryLockstep

end Machine

end Chip8
