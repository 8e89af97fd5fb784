import Chip8.Memory.Agreement
import Chip8.Proofs.Lockstep.History
import Chip8.Proofs.Memory.InterpreterArea
import Chip8.Proofs.Ranges

namespace Chip8

def Noise.upcoming (noise : Noise) (k : Nat) : UInt8 :=
  noise.source (noise.drawn + k)

/-- All of a machine but its settings, its noise, its output and the counts for its reports. -/
structure Snapshot where
  processor : Processor
  memory : Memory
  stack : CallStack
  screen : Screen 64 32
  timers : Timers
  keypad : Keypad
  program : Array UInt8
  frames : Nat

def Snapshot.loaded (s : Snapshot) (program : Array UInt8) : Snapshot where
  processor := Processor.startingAt Memory.programStart
  memory := Memory.image program
  stack := s.stack.cleared
  screen := Screen.dark 64 32
  timers := Timers.stopped
  keypad := s.keypad.releaseAll
  program := program
  frames := 0

namespace Operation

def stored (program : Array UInt8) : Operation → Array UInt8
  | .load next => if next.size ≤ Memory.programSpace then next else program
  | _ => program

def lastLoaded (operations : List Operation) : Array UInt8 :=
  operations.foldl stored #[]

end Operation

namespace Machine

variable {τ τ' σ σ' : Type} {m m' : Machine} {program : Array UInt8}

def snapshot (m : Machine) : Snapshot where
  processor := m.processor
  memory := m.memory
  stack := m.stack
  screen := m.screen
  timers := m.timers
  keypad := m.keypad
  program := m.program
  frames := m.frames

def loaded (m : Machine) (program : Array UInt8) : Machine :=
  { m with program }.reset

theorem load_eq_ok (fits : program.size ≤ Memory.programSpace) (m : Machine) :
    load program m = .ok () (m.loaded program) := by
  unfold load
  rw [Memory.checkProgram_eq_ok_iff.2 fits]
  rfl

theorem load_eq_error (large : Memory.programSpace < program.size) (m : Machine) :
    load program m = .error (.programTooLarge program.size Memory.programSpace) m := by
  unfold load Memory.checkProgram
  rw [if_pos large]

/-- Machines that cannot be told apart by what they do, now or later. -/
structure Agree (m m' : Machine) : Prop where
  snapshot : m'.snapshot = m.snapshot
  dialect : m'.settings.dialect = m.settings.dialect
  stepsPerFrame : m'.settings.stepsPerFrame = m.settings.stepsPerFrame
  noise : m'.noise.upcoming = m.noise.upcoming

theorem Agree.through {next next' : Machine} (h : Agree m m') (change : Snapshot → Snapshot)
    (left : next.snapshot = change m.snapshot ∧ next.settings = m.settings ∧
      next.noise = m.noise := by exact ⟨rfl, rfl, rfl⟩)
    (right : next'.snapshot = change m'.snapshot ∧ next'.settings = m'.settings ∧
      next'.noise = m'.noise := by exact ⟨rfl, rfl, rfl⟩) : Agree next next' where
  snapshot := by rw [left.1, right.1, h.snapshot]
  dialect := by rw [left.2.1, right.2.1, h.dialect]
  stepsPerFrame := by rw [left.2.1, right.2.1, h.stepsPerFrame]
  noise := by rw [left.2.2, right.2.2, h.noise]

theorem Agree.crashReport (h : Agree m m') (reason : String) :
    m'.crashReport reason = m.crashReport reason := by
  have processor : m'.processor = m.processor := congrArg Snapshot.processor h.snapshot
  have stack : m'.stack = m.stack := congrArg Snapshot.stack h.snapshot
  have timers : m'.timers = m.timers := congrArg Snapshot.timers h.snapshot
  unfold Machine.crashReport currentMnemonic dump traceLine registersText stackText
  rw [processor, stack, timers]

theorem agree_shared : Shared Agree where
  v h := congrArg (fun s => s.processor.v) h.snapshot
  pc h := congrArg (fun s => s.processor.pc) h.snapshot
  index h := congrArg (fun s => s.processor.i % 4096) h.snapshot
  keyRegister h := congrArg (fun s => s.processor.keyRegister) h.snapshot
  memory h := congrArg Snapshot.memory h.snapshot
  stack h := congrArg Snapshot.stack h.snapshot
  screen h := congrArg Snapshot.screen h.snapshot

theorem Agree.rest (h : Agree m m') : m'.noise.rest.upcoming = m.noise.rest.upcoming := by
  funext k
  have later := congrFun h.noise (k + 1)
  unfold Noise.upcoming at later ⊢
  rw [Nat.add_comm k, ← Nat.add_assoc, ← Nat.add_assoc] at later
  exact later

theorem agree_instructionLockstep : InstructionLockstep (· = ·) Agree where
  toShared := agree_shared
  fault _ := rfl
  report h reason := by rw [h.crashReport]
  registers h v := h.through fun s => { s with processor.v := v }
  jump h address := h.through fun s => { s with processor.pc := address }
  setIndex h i := h.through fun s => { s with processor.i := i }
  moveIndex h offset :=
    h.through fun s => { s with processor.i := (s.processor.i + offset) % 65536 }
  await h x :=
    h.through fun s => { s with processor.keyRegister := x, processor.phase := .awaitingKey }
  resume h := h.through fun s => { s with processor.phase := .running }
  picture h screen := h.through fun s => { s with screen }
  setDelay h value := h.through fun s => { s with timers := s.timers.setDelay value }
  setSound h value := h.through fun s => { s with timers := s.timers.setSound value }
  noise h := ⟨h.snapshot, h.dialect, h.stepsPerFrame, h.rest⟩
  store h memory := h.through fun s => { s with memory }
  stacked h stack := h.through fun s => { s with stack }

theorem agree_stepLockstep : StepLockstep (· = ·) Agree where
  toInstructionLockstep := agree_instructionLockstep
  phase h := congrArg (fun s => s.processor.phase) h.snapshot
  prepare h :=
    h.through fun s => { s with
      processor.fetchedAt := s.processor.pc
      processor.opcode := s.memory.word s.processor.pc
      processor.pc := (s.processor.pc + 2) % 4096 }

theorem agree_historyLockstep : HistoryLockstep (· = ·) Agree where
  toStepLockstep := agree_stepLockstep
  dialect h := h.dialect
  stepsPerFrame h := h.stepsPerFrame
  keypad h := congrArg Snapshot.keypad h.snapshot
  timers h := congrArg Snapshot.timers h.snapshot
  random h := congrFun h.noise 0
  load h program := h.through fun s => s.loaded program
  reset h := h.through fun s => s.loaded s.program
  time h timers := h.through fun s => { s with timers }
  count h := h.through fun s => { s with frames := s.frames + 1 }
  keys h keypad := h.through fun s => { s with keypad }

theorem run_load_eq_ok (host : Host τ σ) (fits : program.size ≤ Memory.programSpace)
    (s : Machine × σ) :
    (Operation.load program).run host s = .ok () (s.1.loaded program, s.2) := by
  obtain ⟨m, world⟩ := s
  change Session.machine (load program) (m, world) = _
  simp only [Session.machine, load_eq_ok fits]

theorem run_load_eq_error (host : Host τ σ) (large : Memory.programSpace < program.size)
    (s : Machine × σ) :
    (Operation.load program).run host s =
      .error (.programTooLarge program.size Memory.programSpace) s := by
  obtain ⟨m, world⟩ := s
  change Session.machine (load program) (m, world) = _
  simp only [Session.machine, load_eq_error large]

def charter (m : Machine) : Settings × Keymap × Array UInt8 :=
  (m.settings, m.keypad.keymap, m.program)

theorem charter_stepInvariant (given : Settings × Keymap × Array UInt8) :
    StepInvariant fun m => m.charter = given where
  registers h _ := h
  jump h _ _ := h
  index h _ _ := h
  darken h := h
  draw h _ _ _ := h
  time h _ := h
  noise h := h
  store h _ := h
  park h _ _ := h
  call h _ := h
  ret h _ := h
  fetch h := h
  print h _ := h

theorem charter_runInvariant (given : Settings × Keymap × Array UInt8) :
    RunInvariant fun m => m.charter = given where
  tick h := h
  count h := h
  keys h _ := h
  step h := (charter_stepInvariant given).step h
  reset h := h

theorem charter_run (host : Host τ σ) (operation : Operation) (s : Machine × σ) :
    (stateAfter (operation.run host) s).1.charter =
      (s.1.settings, s.1.keypad.keymap, operation.stored s.1.program) := by
  by_cases loads : ∃ program, operation = .load program
  · obtain ⟨program, rfl⟩ := loads
    have stored : (Operation.load program).stored s.1.program =
        if program.size ≤ Memory.programSpace then program else s.1.program := rfl
    rw [stored]
    by_cases fits : program.size ≤ Memory.programSpace
    · rw [stateAfter_of_ok (run_load_eq_ok host fits s), if_pos fits]
      rfl
    · have large := Nat.lt_of_not_le fits
      rw [stateAfter_of_error (run_load_eq_error host large s), if_neg fits]
      rfl
  · have loadless (program : Array UInt8) : operation ≠ .load program :=
      fun same => loads ⟨program, same⟩
    have stored : operation.stored s.1.program = s.1.program := by
      cases operation with
      | load program => exact absurd rfl (loadless program)
      | _ => rfl
    rw [stored]
    exact (charter_runInvariant s.1.charter).keeps_run host loadless s rfl

theorem charter_history (host : Host τ σ) (operations : List Operation) (s : Machine × σ) :
    (Operation.history host operations s).1.charter =
      (s.1.settings, s.1.keypad.keymap, operations.foldl Operation.stored s.1.program) := by
  induction operations generalizing s with
  | nil => rfl
  | cons operation operations ih =>
    have first := charter_run host operation s
    have rest := ih (stateAfter (operation.run host) s)
    have settings := congrArg Prod.fst first
    have keymap := congrArg (fun given => given.2.1) first
    have program := congrArg (fun given => given.2.2) first
    dsimp only [charter] at settings keymap program
    rw [settings, keymap, program] at rest
    exact rest

structure Remains (settings : Settings) (keymap : Keymap) (m : Machine) : Prop where
  settings : m.settings = settings
  keymap : m.keypad.keymap = keymap
  limit : m.stack.limit = 16

theorem remains_history (host : Host τ σ) (world : σ) (settings : Settings) (keymap : Keymap)
    (noise : Noise) (past : List Operation) :
    Remains settings keymap
      (Operation.history host past (new settings keymap noise, world)).1 := by
  have charter := charter_history host past (new settings keymap noise, world)
  have range := inRange_invariant.history host past (new settings keymap noise, world)
    (inRange_new settings keymap noise)
  exact ⟨congrArg Prod.fst charter, congrArg (fun given => given.2.1) charter, range.stack.limit⟩

theorem program_history (host : Host τ σ) (world : σ) (settings : Settings) (keymap : Keymap)
    (noise : Noise) (past : List Operation) :
    (Operation.history host past (new settings keymap noise, world)).1.program =
      Operation.lastLoaded past :=
  congrArg (fun given => given.2.2) (charter_history host past (new settings keymap noise, world))

variable {settings settings' : Settings} {keymap : Keymap}

theorem snapshot_loaded (left : Remains settings keymap m) (left' : Remains settings' keymap m')
    (program : Array UInt8) : (m'.loaded program).snapshot = (m.loaded program).snapshot := by
  have stack : m'.stack.cleared = m.stack.cleared := by
    unfold CallStack.cleared
    rw [left.limit, left'.limit]
  have keypad : m'.keypad.releaseAll = m.keypad.releaseAll := by
    unfold Keypad.releaseAll
    rw [left.keymap, left'.keymap]
  change { m'.snapshot.loaded program with
    stack := m'.stack.cleared
    keypad := m'.keypad.releaseAll } = m.snapshot.loaded program
  rw [stack, keypad]
  rfl

theorem agree_loaded (left : Remains settings keymap m) (left' : Remains settings' keymap m')
    (dialect : settings'.dialect = settings.dialect)
    (pace : settings'.stepsPerFrame = settings.stepsPerFrame)
    (noise : m'.noise.upcoming = m.noise.upcoming) (program : Array UInt8) :
    Agree (m.loaded program) (m'.loaded program) where
  snapshot := snapshot_loaded left left' program
  dialect := by
    change m'.settings.dialect = m.settings.dialect
    rw [left.settings, left'.settings, dialect]
  stepsPerFrame := by
    change m'.settings.stepsPerFrame = m.settings.stepsPerFrame
    rw [left.settings, left'.settings, pace]
  noise := noise

/-- Whatever was done to two machines with the same dialect, pace and keymap, a program that fits
loads on both and leaves them as it leaves a new machine; from there on, on hosts that answer alike
and with the same noise to come, the same operations leave them the same and fail with the same
faults. A reset goes back to what the program loaded last left, and a program that does not fit
changes nothing. -/
theorem history_load_reset (host : Host τ σ) (host' : Host τ' σ') (world : σ) (world' : σ')
    (settings settings' : Settings) (keymap : Keymap) (noise noise' : Noise)
    (past past' : List Operation) (dialect : settings'.dialect = settings.dialect)
    (pace : settings'.stepsPerFrame = settings.stepsPerFrame) :
    let fresh := new settings keymap noise
    let s := Operation.history host past (fresh, world)
    let s' := Operation.history host' past' (new settings' keymap noise', world')
    (∀ program : Array UInt8, program.size ≤ 3584 →
      (Operation.load program).run host s = .ok () (s.1.loaded program, s.2) ∧
      (Operation.load program).run host' s' = .ok () (s'.1.loaded program, s'.2) ∧
      load program fresh = .ok () (fresh.loaded program) ∧
      (s.1.loaded program).snapshot = (fresh.loaded program).snapshot ∧
      (s'.1.loaded program).snapshot = (fresh.loaded program).snapshot ∧
      ∀ H : σ → σ' → Prop, Host.Alike (· = ·) H host host' → H s.2 s'.2 →
        s'.1.noise.upcoming = s.1.noise.upcoming →
        ∀ later : List Operation,
          (Operation.history host' later (s'.1.loaded program, s'.2)).1.snapshot =
            (Operation.history host later (s.1.loaded program, s.2)).1.snapshot ∧
          Operation.faults host' later (s'.1.loaded program, s'.2) =
            Operation.faults host later (s.1.loaded program, s.2)) ∧
    (∃ last, load (Operation.lastLoaded past) fresh = .ok () last ∧
      s.1.reset.snapshot = last.snapshot) ∧
    ∀ program : Array UInt8, 3584 < program.size →
      (Operation.load program).run host s = .error (.programTooLarge program.size 3584) s := by
  intro fresh s s'
  have isNew : Remains settings keymap fresh :=
    remains_history host world settings keymap noise []
  have left : Remains settings keymap s.1 :=
    remains_history host world settings keymap noise past
  have left' : Remains settings' keymap s'.1 :=
    remains_history host' world' settings' keymap noise' past'
  refine ⟨fun program fits => ?_, ?_, fun program large => run_load_eq_error host large s⟩
  · refine ⟨run_load_eq_ok host fits s, run_load_eq_ok host' fits s', load_eq_ok fits fresh,
      snapshot_loaded isNew left program, snapshot_loaded isNew left' program,
      fun H hosts worlds upcoming later => ?_⟩
    have start : Both Agree H (s.1.loaded program, s.2) (s'.1.loaded program, s'.2) :=
      ⟨agree_loaded left left' dialect pace upcoming program, worlds⟩
    obtain ⟨still, faults⟩ := agree_historyLockstep.history hosts later start
    exact ⟨still.machines.snapshot, (eq_of_forall₂_rel_eq faults).symm⟩
  · have stored : s.1.program = Operation.lastLoaded past :=
      program_history host world settings keymap noise past
    have guarded : s.1.Guarded :=
      guarded_invariant.history host past (fresh, world) (guarded_new settings keymap noise)
    have back : s.1.reset = s.1.loaded s.1.program := rfl
    rw [back, stored]
    exact ⟨_, load_eq_ok (stored ▸ guarded.program) fresh, snapshot_loaded isNew left _⟩

theorem history_load_reset_twoPasts :
    let program : Array UInt8 := #[0x60, 0x2A]
    let fresh := new {} [] (Noise.cycle #[])
    let s := Operation.history Host.silent [.load #[0x12, 0x00], .tick] (fresh, ())
    let s' := Operation.history Host.silent [.releaseAll]
      (new { live := true } [] (Noise.cycle #[]), ())
    (Operation.load program).run Host.silent s = .ok () (s.1.loaded program, ()) ∧
      (s.1.loaded program).snapshot = (fresh.loaded program).snapshot ∧
      (∀ later, (Operation.history Host.silent later (s'.1.loaded program, ())).1.snapshot =
        (Operation.history Host.silent later (s.1.loaded program, ())).1.snapshot) ∧
      s.1.reset.snapshot = (fresh.loaded #[0x12, 0x00]).snapshot := by
  have forgets := history_load_reset Host.silent Host.silent () () {} { live := true } []
    (Noise.cycle #[]) (Noise.cycle #[]) [.load #[0x12, 0x00], .tick] [.releaseAll] rfl rfl
  have hosts : Host.Alike (· = ·) (· = ·) Host.silent Host.silent := {
    present := fun _ _ _ _ => .ok () rfl
    tone := fun _ _ _ => .ok () rfl }
  dsimp only at forgets ⊢
  generalize ticked : Operation.history Host.silent [.load #[0x12, 0x00], .tick]
    (new {} [] (Noise.cycle #[]), ()) = s at forgets ⊢
  generalize released : Operation.history Host.silent [.releaseAll]
    (new { live := true } [] (Noise.cycle #[]), ()) = s' at forgets ⊢
  have noise : s.1.noise = Noise.cycle #[] := ticked ▸ rfl
  have noise' : s'.1.noise = Noise.cycle #[] := released ▸ rfl
  obtain ⟨loads, ⟨last, done, back⟩, -⟩ := forgets
  obtain ⟨first, -, -, same, -, later⟩ := loads #[0x60, 0x2A] (by decide)
  refine ⟨first, same, fun operations => ?_, ?_⟩
  · exact (later (· = ·) hosts rfl (by rw [noise, noise']) operations).1
  · have stored : Operation.lastLoaded [.load #[0x12, 0x00], .tick] = #[0x12, 0x00] := rfl
    rw [stored, load_eq_ok (by decide)] at done
    cases done
    exact back

end Machine

end Chip8
