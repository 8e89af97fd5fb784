import Chip8.Proofs.KeyWait
import Chip8.Proofs.Loading
import Chip8.Proofs.Run.Course
import Chip8.Proofs.Trace.Layout

namespace Chip8

namespace Machine

variable {m : Machine} {P : Machine → Prop} {τ σ : Type}

def upcoming (m : Machine) : Vitals where
  v := m.processor.v
  i := m.processor.i
  delay := m.timers.delay
  sound := m.timers.sound
  address := m.processor.pc
  word := m.memory.word m.processor.pc

def announcement (m : Machine) : String :=
  m.fetched.traceLine m.fetched.currentMnemonic

def isRunning (m : Machine) : Bool :=
  m.processor.phase = .running

def journal (settings : Settings) (starts : List Machine) : List String :=
  if settings.live then (starts.filter isRunning).map announcement else []

theorem journal_append (settings : Settings) (starts later : List Machine) :
    journal settings (starts ++ later) = journal settings starts ++ journal settings later := by
  unfold journal
  cases settings.live <;> simp

theorem ofLine_announcement (h : m.WellFormed) : Vitals.ofLine m.announcement = m.upcoming :=
  ofLine_traceLine h.fetched _

theorem announcement_eq_iff {m' : Machine} (h : m.WellFormed) (h' : m'.WellFormed) :
    m.announcement = m'.announcement ↔ m.upcoming = m'.upcoming :=
  traceLine_eq_iff h.fetched h'.fetched

def output (m : Machine) : Settings × List String :=
  (m.settings, m.printed.toList)

theorem output_instructionInvariant (given : Settings × List String) :
    InstructionInvariant fun m => m.output = given where
  registers h _ := h
  jump h _ _ := h
  index h _ _ := h
  darken h := h
  draw h _ _ _ := h
  time h _ := h
  noise h := h
  store h _ := h
  park h _ _ := h
  call h _ := h
  ret h _ := h

theorem output_pauseInvariant (given : Settings × List String) :
    PauseInvariant fun m => m.output = given where
  tick h := h
  count h := h
  keys h _ := h

theorem output_prepared (running : m.processor.phase = .running) :
    m.prepared.output = (m.settings, m.printed.toList ++ journal m.settings [m]) := by
  have counts : m.isRunning = true := by simp [isRunning, running]
  change (m.settings, (if m.settings.live then m.printed.push m.announcement else m.printed).toList)
    = _
  unfold journal
  cases m.settings.live <;> simp [counts]

theorem output_step (m : Machine) :
    (stateAfter step m).output = (m.settings, m.printed.toList ++ journal m.settings [m]) := by
  cases phase : m.processor.phase with
  | running =>
    rw [stateAfter_step_of_running phase]
    exact (output_instructionInvariant _).execute (output_prepared phase) _
  | awaitingKey =>
    have silent : journal m.settings [m] = [] := by
      simp [journal, isRunning, phase]
    rw [stateAfter_of_ok (step_of_awaiting phase), silent, List.append_nil]
    exact (output_instructionInvariant _).poll rfl

theorem output_steps (n : Nat) (m : Machine) :
    (stateAfter (steps n) m).output =
      (m.settings, m.printed.toList ++ journal m.settings (burst n m)) := by
  induction n generalizing m with
  | zero =>
    change m.output = _
    simp [output, journal, burst]
  | succ n ih =>
    have first := output_step m
    unfold burst
    cases done : step m with
    | ok a next =>
      have whole : stateAfter (steps (n + 1)) m = stateAfter (steps n) next :=
        stateAfter_bind_of_ok done
      rw [stateAfter_of_ok done] at first
      have settings : next.settings = m.settings := congrArg Prod.fst first
      have printed : next.printed.toList = m.printed.toList ++ journal m.settings [m] :=
        congrArg Prod.snd first
      rw [whole, ih next, settings, printed, List.append_assoc, ← journal_append]
      rfl
    | error fault next =>
      have whole : stateAfter (steps (n + 1)) m = next := stateAfter_of_error (bind_of_error done)
      rw [stateAfter_of_error done] at first
      rw [whole, first]

theorem starts_of_steps (inv : Keeps P step) (n : Nat) {m : Machine} (h : P m) :
    ∀ t ∈ burst n m, P t := by
  induction n generalizing m with
  | zero => simp [burst]
  | succ n ih =>
    have first := inv m h
    unfold burst
    intro t member
    rcases List.mem_cons.1 member with rfl | later
    · exact h
    · cases done : step m with
      | ok a next =>
        rw [done] at later
        rw [stateAfter_of_ok done] at first
        exact ih first t later
      | error fault next =>
        rw [done] at later
        cases later

end Machine

namespace Operation

open Machine

variable {τ σ : Type}

theorem output_run (host : Host τ σ) (operation : Operation) (s : Machine × σ) :
    (stateAfter (operation.run host) s).1.output =
      (s.1.settings, s.1.printed.toList ++ journal s.1.settings (operation.starts s.1)) := by
  have between (given : Settings × List String) := output_pauseInvariant given
  have silent : s.1.output = (s.1.settings, s.1.printed.toList ++ journal s.1.settings []) := by
    simp [output, journal]
  cases operation with
  | step =>
    rw [machine_step]
    exact output_step s.1
  | frame =>
    have stepped : (stateAfter
        (Session.machine (steps s.1.settings.stepsPerFrame.toNat)) s).1.output =
        (s.1.settings, s.1.printed.toList ++
          journal s.1.settings (burst s.1.settings.stepsPerFrame.toNat s.1)) := by
      rw [Session.stateAfter_machine]
      exact output_steps _ s.1
    have settled := Keeps.followedBy (P := fun s : Machine × σ => s.1.output = _) stepped
      fun _ => (between _).keeps_settle host
    exact settled
  | tick => exact (between _).keeps_tick host s silent
  | setKey symbol down => exact (between _).keeps_setKey host symbol down s silent
  | releaseAll => exact (between _).keeps_releaseAll host s silent
  | reset => exact silent
  | load program =>
    by_cases fits : program.size ≤ Memory.programSpace
    · rw [stateAfter_of_ok (run_load_eq_ok host fits s)]
      exact silent
    · rw [stateAfter_of_error (run_load_eq_error host (Nat.lt_of_not_le fits) s)]
      exact silent

theorem output_history (host : Host τ σ) (operations : List Operation) (s : Machine × σ) :
    (history host operations s).1.output =
      (s.1.settings,
        s.1.printed.toList ++ journal s.1.settings (historyStarts host operations s)) := by
  induction operations generalizing s with
  | nil => simp [history, output, journal, historyStarts]
  | cons operation operations ih =>
    have first := output_run host operation s
    have settings := congrArg Prod.fst first
    have printed := congrArg Prod.snd first
    dsimp only [output] at settings printed
    unfold history historyStarts
    rw [ih, settings, printed, List.append_assoc, ← journal_append]

theorem starts_of_history {P : Machine → Prop} (inv : HistoryInvariant P) (host : Host τ σ)
    (operations : List Operation) {s : Machine × σ} (h : P s.1) :
    ∀ t ∈ historyStarts host operations s, P t := by
  induction operations generalizing s with
  | nil => simp [historyStarts]
  | cons operation operations ih =>
    intro t member
    rcases List.mem_append.1 member with now | later
    · cases operation with
      | step =>
        rw [List.mem_singleton.1 now]
        exact h
      | frame => exact starts_of_steps inv.keeps_step _ h t now
      | _ => cases now
    · exact ih (inv.keeps_run host operation s h) t later

end Operation

namespace Machine

/-- From a reachable state on, a machine that runs live prints one line for each step that it takes
while it runs, in order. Each line is read as what its step was about to do, and each dump as the
line, the stack and the phase, so that lines and dumps are the same only if these are. -/
theorem history_trace {τ τ' σ σ' : Type} (host : Host τ σ) (host' : Host τ' σ') (world : σ)
    (world' : σ') (settings settings' : Settings) (keymap keymap' : Keymap) (noise noise' : Noise)
    (past past' following following' : List Operation) :
    let s := Operation.history host past (new settings keymap noise, world)
    let s' := Operation.history host' past' (new settings' keymap' noise', world')
    let steps := (Operation.historyStarts host following s).filter isRunning
    let steps' := (Operation.historyStarts host' following' s').filter isRunning
    (Operation.history host following s).1.printed.toList =
      s.1.printed.toList ++ (if settings.live then steps.map announcement else []) ∧
    (∀ m ∈ steps, Vitals.ofLine m.announcement = m.upcoming) ∧
    (∀ m ∈ steps, ∀ m' ∈ steps', m.announcement = m'.announcement ↔ m.upcoming = m'.upcoming) ∧
    Account.ofDump (s.1.dump s.1.currentMnemonic) = s.1.account ∧
    (s.1.dump s.1.currentMnemonic = s'.1.dump s'.1.currentMnemonic ↔
      s.1.account = s'.1.account) := by
  intro s s' steps steps'
  have ranges := inRange_invariant.toHistoryInvariant
  have good : s.1.InRange := ranges.history host past _ (inRange_new settings keymap noise)
  have good' : s'.1.InRange := ranges.history host' past' _ (inRange_new settings' keymap' noise')
  have start : ∀ m ∈ steps, m.InRange := fun m member =>
    Operation.starts_of_history ranges host following good m (List.mem_of_mem_filter member)
  have start' : ∀ m ∈ steps', m.InRange := fun m member =>
    Operation.starts_of_history ranges host' following' good' m (List.mem_of_mem_filter member)
  refine ⟨?_, ?_, ?_, ofDump_dump good, dump_eq_iff good good'⟩
  · have output := congrArg Prod.snd (Operation.output_history host following s)
    have given : s.1.settings = settings :=
      (remains_history host world settings keymap noise past).settings
    rw [given] at output
    exact output
  · intro m member
    exact ofLine_announcement (start m member).toWellFormed
  · intro m member m' member'
    exact announcement_eq_iff (start m member).toWellFormed (start' m' member').toWellFormed

def stray : Array UInt8 := #[0x60, 0x05, 0x00, 0xEE]

theorem word_stray {k : Nat} (inside : k + 1 < Memory.programSpace) :
    (Memory.image stray).word (0x200 + k) =
      Opcode.ofBytes (stray.getD k 0) (stray.getD (k + 1) 0) :=
  Memory.word_image stray inside

theorem steps_stray {m : Machine} (running : m.processor.phase = .running)
    (pc : m.processor.pc = 0x200) (memory : m.memory = Memory.image stray)
    (unstacked : m.stack.items = []) :
    let next := { m.prepared.setRegister 0 5 with timers := m.timers.tick }
    step m = .ok () (m.prepared.setRegister 0 5) ∧
      step next = .error .stackUnderflow next.prepared ∧ m.isRunning ∧ next.isRunning ∧
      m.upcoming.word = ⟨0x6, 0x0, 0x0, 0x5⟩ ∧ next.upcoming.word = ⟨0x0, 0x0, 0xE, 0xE⟩ ∧
      next.upcoming.address = 0x202 := by
  intro next
  have word : m.memory.word m.processor.pc = ⟨0x6, 0x0, 0x0, 0x5⟩ := by
    rw [pc, memory]
    exact word_stray (k := 0) (by decide)
  have address : next.processor.pc = 0x202 := by
    change (m.processor.pc + 2) % 4096 = 0x202
    rw [pc]
    rfl
  have word' : next.memory.word next.processor.pc = ⟨0x0, 0x0, 0xE, 0xE⟩ := by
    change m.memory.word _ = _
    rw [address, memory]
    exact word_stray (k := 2) (by decide)
  have bottom : next.prepared.stack.items = [] := unstacked
  refine ⟨?_, ?_, ?_, ?_, word, word', address⟩
  · rw [step_of_word running word]
    rfl
  · rw [step_of_word (m := next) running word']
    change returnBack next.prepared = _
    simp only [returnBack, CallStack.pop, bottom]
  · simp [isRunning, running]
  · change decide (m.processor.phase = .running) = true
    simp [running]

theorem starts_stray {s : Machine × Unit} (running : s.1.processor.phase = .running)
    (pc : s.1.processor.pc = 0x200) (memory : s.1.memory = Memory.image stray)
    (unstacked : s.1.stack.items = []) :
    (Operation.historyStarts Host.silent [.step, .tick, .step] s).filter isRunning =
      [s.1, { s.1.prepared.setRegister 0 5 with timers := s.1.timers.tick }] := by
  obtain ⟨stepped, -, first, second, -⟩ := steps_stray running pc memory unstacked
  have reached : (Operation.history Host.silent [.step, .tick] s).1 =
      { s.1.prepared.setRegister 0 5 with timers := s.1.timers.tick } := by
    change (stateAfter (Operation.tick.run Host.silent) _).1 = _
    rw [Operation.machine_tick, Operation.machine_step, stateAfter_of_ok stepped]
    rfl
  change [s.1, (Operation.history Host.silent [.step, .tick] s).1].filter isRunning = _
  rw [reached]
  simp [first, second]

theorem history_trace_stray :
    let s := Operation.history Host.silent [.load stray]
      (new { live := true } [] (Noise.cycle #[]), ())
    let next : Machine := { s.1.prepared.setRegister 0 5 with timers := s.1.timers.tick }
    let last := Operation.history Host.silent [.step, .tick, .step] s
    last.1.printed.toList.map Vitals.ofLine = [s.1.upcoming, next.upcoming] ∧
      s.1.upcoming.word = ⟨0x6, 0x0, 0x0, 0x5⟩ ∧ next.upcoming.word = ⟨0x0, 0x0, 0xE, 0xE⟩ ∧
      next.upcoming.address = 0x202 ∧ step next = .error .stackUnderflow next.prepared := by
  intro s next last
  have running : s.1.processor.phase = .running := rfl
  have pc : s.1.processor.pc = 0x200 := rfl
  have memory : s.1.memory = Memory.image stray := rfl
  have unstacked : s.1.stack.items = [] := rfl
  have unprinted : s.1.printed.toList = [] := rfl
  obtain ⟨-, fails, -, -, word, word', address⟩ := steps_stray running pc memory unstacked
  obtain ⟨lines, read, -⟩ := history_trace Host.silent Host.silent () () { live := true } {}
    [] [] (Noise.cycle #[]) (Noise.cycle #[]) [.load stray] [] [.step, .tick, .step] []
  rw [starts_stray running pc memory unstacked] at lines read
  have first := read s.1 (List.mem_cons_self ..)
  have second := read next (List.mem_cons_of_mem _ (List.mem_cons_self ..))
  refine ⟨?_, word, word', address, fails⟩
  rw [lines, unprinted, if_pos rfl]
  exact congrArg₂ (fun a b => [a, b]) first second

end Machine

end Chip8
