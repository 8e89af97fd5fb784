import Chip8.Proofs.Invariant
import Chip8.Run

namespace Chip8

inductive Operation where
  | load (program : Array UInt8)
  | reset
  | step
  | tick
  | frame
  | setKey (symbol : String) (down : Bool)
  | releaseAll
deriving DecidableEq, Repr

namespace Operation

variable {τ σ : Type}

def run (host : Host τ σ) : Operation → Session σ Unit
  | load program => Session.machine (Machine.load program)
  | reset => Session.machine (modify Machine.reset)
  | step => Session.machine Machine.step
  | tick => Machine.tick host
  | frame => Machine.frame host
  | setKey symbol down =>
    Session.machine (modify fun m => { m with keypad := m.keypad.set symbol down })
  | releaseAll => Session.machine (modify fun m => { m with keypad := m.keypad.releaseAll })

/-- The machine and its host after some operations in turn. -/
def history (host : Host τ σ) : List Operation → Machine × σ → Machine × σ
  | [], s => s
  | operation :: operations, s => history host operations (stateAfter (operation.run host) s)

end Operation

def Host.silent : Host Unit Unit where
  now := pure ()
  sleep _ := pure ()
  poll keypad := pure (false, keypad)
  present _ := pure ()
  title _ := pure ()
  tone := pure ()

namespace Session

variable {τ σ α : Type}

theorem stateAfter_machine (action : EStateM Fault Machine α) (s : Machine × σ) :
    stateAfter (machine action) s = (stateAfter action s.1, s.2) := by
  obtain ⟨m, world⟩ := s
  unfold stateAfter machine
  cases done : action m <;> simp only [done]

theorem stateAfter_host (action : EStateM Fault σ α) (s : Machine × σ) :
    stateAfter (host action) s = (s.1, stateAfter action s.2) := by
  obtain ⟨m, world⟩ := s
  unfold stateAfter host
  cases done : action world <;> simp only [done]

end Session

namespace Operation

variable {τ σ : Type}

theorem machine_step (host : Host τ σ) (s : Machine × σ) :
    (stateAfter (step.run host) s).1 = stateAfter Machine.step s.1 :=
  congrArg Prod.fst (Session.stateAfter_machine Machine.step s)

theorem machine_tick (host : Host τ σ) (s : Machine × σ) :
    (stateAfter (tick.run host) s).1 = { s.1 with timers := s.1.timers.tick } := by
  change (stateAfter (if s.1.timers.toneDue then Session.host host.tone else pure ())
    ({ s.1 with timers := s.1.timers.tick }, s.2)).1 = _
  cases s.1.timers.toneDue
  · rfl
  · exact congrArg Prod.fst (Session.stateAfter_host host.tone _)

end Operation

theorem stateAfter_bind_of_ok {ε σ α β : Type} {action : EStateM ε σ α} {next : α → EStateM ε σ β}
    {s t : σ} {a : α} (done : action s = .ok a t) :
    stateAfter (action >>= next) s = stateAfter (next a) t := by
  change stateAfter (EStateM.bind action next) s = _
  unfold stateAfter EStateM.bind
  rw [done]

/-- An action that a predicate survives, whether the action succeeds or fails. -/
def Keeps {ε σ α : Type} (P : σ → Prop) (action : EStateM ε σ α) : Prop :=
  ∀ s, P s → P (stateAfter action s)

namespace Keeps

variable {ε σ α β : Type} {P : σ → Prop}

theorem pure (a : α) : Keeps P (pure a : EStateM ε σ α) := fun _ h => h

theorem get : Keeps P (get : EStateM ε σ σ) := fun _ h => h

theorem followedBy {action : EStateM ε σ α} {next : α → EStateM ε σ β} {s : σ}
    (first : P (stateAfter action s)) (rest : ∀ a, Keeps P (next a)) :
    P (stateAfter (action >>= next) s) := by
  change P (stateAfter (EStateM.bind action next) s)
  unfold stateAfter at first
  unfold stateAfter EStateM.bind
  cases done : action s with
  | ok a t =>
    rw [done] at first
    exact rest a t first
  | error fault t =>
    rw [done] at first
    exact first

theorem bind {action : EStateM ε σ α} {next : α → EStateM ε σ β} (first : Keeps P action)
    (rest : ∀ a, Keeps P (next a)) : Keeps P (action >>= next) :=
  fun s h => followedBy (first s h) rest

variable {Q : Machine → Prop} {action : EStateM Fault Machine α}

theorem machine (h : Keeps Q action) :
    Keeps (fun s : Machine × σ => Q s.1) (Session.machine action) := by
  intro s holds
  rw [Session.stateAfter_machine]
  exact h s.1 holds

theorem change {f : Machine → Machine} (h : ∀ m, Q m → Q (f m)) :
    Keeps (fun s : Machine × σ => Q s.1) (Session.machine (modify f)) := by
  apply machine
  exact h

theorem host (action : EStateM Fault σ α) :
    Keeps (fun s : Machine × σ => Q s.1) (Session.host action) := by
  intro s holds
  rw [Session.stateAfter_host]
  exact holds

end Keeps

namespace Machine

variable {P : Machine → Prop} {τ σ : Type}

theorem keeps_steps (inv : Keeps P step) (n : Nat) : Keeps P (steps n) := by
  induction n with
  | zero => exact Keeps.pure ()
  | succ n ih => exact Keeps.bind inv fun _ => ih

structure PauseInvariant (P : Machine → Prop) : Prop where
  tick : ∀ {m}, P m → P { m with timers := m.timers.tick }
  count : ∀ {m}, P m → P m.countFrame
  keys : ∀ {m}, P m → ∀ latch, P { m with keypad.latch := latch }

namespace PauseInvariant

theorem keeps_tick (inv : PauseInvariant P) (host : Host τ σ) :
    Keeps (fun s : Machine × σ => P s.1) (Machine.tick host) := by
  refine Keeps.bind Keeps.get fun _ => Keeps.bind ?_ fun _ => ?_
  · exact Keeps.change fun m h => inv.tick h
  · split
    · exact Keeps.host _
    · exact Keeps.pure ()

theorem keeps_settle (inv : PauseInvariant P) (host : Host τ σ) :
    Keeps (fun s : Machine × σ => P s.1) (do
      Machine.tick host
      Machine.refresh host
      Session.machine (modify countFrame)) := by
  refine Keeps.bind (inv.keeps_tick host) fun _ => Keeps.bind ?_ fun _ => ?_
  · exact Keeps.bind Keeps.get fun _ => Keeps.host _
  · exact Keeps.change fun m h => inv.count h

theorem setKey {m : Machine} (inv : PauseInvariant P) (h : P m) (symbol : String) (down : Bool) :
    P { m with keypad := m.keypad.set symbol down } := by
  unfold Keypad.set
  split
  · exact inv.keys h _
  · exact h

theorem keeps_setKey (inv : PauseInvariant P) (host : Host τ σ) (symbol : String) (down : Bool) :
    Keeps (fun s : Machine × σ => P s.1) ((Operation.setKey symbol down).run host) :=
  Keeps.change (Q := P) fun _ h => inv.setKey h symbol down

theorem keeps_releaseAll (inv : PauseInvariant P) (host : Host τ σ) :
    Keeps (fun s : Machine × σ => P s.1) (Operation.releaseAll.run host) :=
  Keeps.change (Q := P) fun _ h => inv.keys h Latch.released

end PauseInvariant

/-- A predicate that also survives every step and every reset. -/
structure RunInvariant (P : Machine → Prop) : Prop extends PauseInvariant P where
  step : ∀ {m}, P m → P (stateAfter Machine.step m)
  reset : ∀ {m}, P m → P m.reset

namespace RunInvariant

theorem keeps_step (inv : RunInvariant P) : Keeps P Machine.step := fun _ h => inv.step h

theorem keeps_steps (inv : RunInvariant P) (n : Nat) : Keeps P (steps n) :=
  Machine.keeps_steps inv.keeps_step n

theorem keeps_frame (inv : RunInvariant P) (host : Host τ σ) :
    Keeps (fun s : Machine × σ => P s.1) (frame host) :=
  Keeps.bind Keeps.get fun _ =>
    Keeps.bind (Keeps.machine (inv.keeps_steps _)) fun _ => inv.keeps_settle host

theorem keeps_run (inv : RunInvariant P) (host : Host τ σ) {operation : Operation}
    (loadless : ∀ program, operation ≠ .load program) :
    Keeps (fun s : Machine × σ => P s.1) (operation.run host) := by
  cases operation with
  | load program => exact absurd rfl (loadless program)
  | reset => exact Keeps.change fun m h => inv.reset h
  | step => exact Keeps.machine inv.keeps_step
  | tick => exact inv.keeps_tick host
  | frame => exact inv.keeps_frame host
  | setKey symbol down => exact inv.keeps_setKey host symbol down
  | releaseAll => exact inv.keeps_releaseAll host

end RunInvariant

structure HistoryInvariant (P : Machine → Prop) : Prop extends RunInvariant P where
  load : ∀ {m program}, P m → Memory.checkProgram program = .ok () →
    P { m with program }.reset

namespace HistoryInvariant

theorem keeps_load (inv : HistoryInvariant P) (program : Array UInt8) :
    Keeps P (Machine.load program) := by
  intro m h
  unfold stateAfter Machine.load
  cases checked : Memory.checkProgram program with
  | error fault => exact h
  | ok => exact inv.load h checked

theorem keeps_run (inv : HistoryInvariant P) (host : Host τ σ) (operation : Operation) :
    Keeps (fun s : Machine × σ => P s.1) (operation.run host) := by
  by_cases loads : ∃ program, operation = .load program
  · obtain ⟨program, rfl⟩ := loads
    exact Keeps.machine (inv.keeps_load program)
  · exact inv.toRunInvariant.keeps_run host fun program same => loads ⟨program, same⟩

theorem history (inv : HistoryInvariant P) (host : Host τ σ) (operations : List Operation)
    (s : Machine × σ) (h : P s.1) : P (Operation.history host operations s).1 := by
  induction operations generalizing s with
  | nil => exact h
  | cons operation operations ih => exact ih _ (inv.keeps_run host operation s h)

end HistoryInvariant

/-- A predicate that survives the changes operations are made of. -/
structure Invariant (P : Machine → Prop) : Prop extends StepInvariant P where
  load : ∀ {m program}, P m → Memory.checkProgram program = .ok () →
    P { m with program }.reset
  reset : ∀ {m}, P m → P m.reset
  count : ∀ {m}, P m → P m.countFrame
  keys : ∀ {m}, P m → ∀ latch, P { m with keypad.latch := latch }

namespace Invariant

theorem toHistoryInvariant (inv : Invariant P) : HistoryInvariant P where
  step h := inv.step h
  load h checked := inv.load h checked
  reset h := inv.reset h
  tick h := inv.time h _
  count h := inv.count h
  keys h latch := inv.keys h latch

theorem history (inv : Invariant P) (host : Host τ σ) (operations : List Operation)
    (s : Machine × σ) (h : P s.1) : P (Operation.history host operations s).1 :=
  inv.toHistoryInvariant.history host operations s h

end Invariant

end Machine

end Chip8
