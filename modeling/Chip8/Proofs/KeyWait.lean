import Chip8.Memory.Agreement
import Chip8.Proofs.Keyboard.Keypad
import Chip8.Proofs.Table.Refinement

namespace Chip8

namespace Operation

def onward : Operation → Bool
  | .load _ | .reset => false
  | _ => true

end Operation

namespace Machine

variable {m next : Machine} {x key : Nibble}

/-- A machine that waits has read the word it waits for, is on it, and finds it there still. -/
structure Waiting (m : Machine) : Prop where
  opcode : m.processor.opcode = ⟨0xF, m.processor.keyRegister, 0x0, 0xA⟩
  pc : m.processor.pc = m.processor.fetchedAt
  word : m.memory.word m.processor.pc = m.processor.opcode

structure Held (m next : Machine) : Prop where
  registers : next.processor.v = m.processor.v
  index : next.processor.i = m.processor.i
  pc : next.processor.pc = m.processor.pc
  stack : next.stack = m.stack
  memory : next.memory = m.memory
  screen : next.screen = m.screen
  noise : next.noise = m.noise

/-- What a look at the keypad does to a machine that waits with register `x` and finds `key`. -/
structure Answered (m : Machine) (x key : Nibble) (next : Machine) : Prop where
  phase : next.processor.phase = .running
  pc : next.processor.pc = (m.processor.pc + 2) % 4096
  pressed : (next.register x).toNat = key
  others : ∀ y, y ≠ x → next.register y = m.register y
  index : next.processor.i = m.processor.i
  stack : next.stack = m.stack
  memory : next.memory = m.memory
  screen : next.screen = m.screen
  timers : next.timers = m.timers
  keypad : next.keypad = m.keypad
  noise : next.noise = m.noise

def parked (m : Machine) (x : Nibble) : Machine :=
  { m.prepared with
    processor.pc := m.processor.pc
    processor.keyRegister := x
    processor.phase := .awaitingKey }

theorem step_awaitKey (range : 0 ≤ m.processor.pc ∧ m.processor.pc < 4096)
    (running : m.processor.phase = .running)
    (word : m.memory.word m.processor.pc = ⟨0xF, x, 0x0, 0xA⟩) :
    step m = .ok () (m.parked x).poll := by
  have back : ((m.processor.pc + 2) % 4096 - 2) % 4096 = m.processor.pc := by omega
  have decoded : Instruction.decode ⟨0xF, x, 0x0, 0xA⟩ = .awaitKey x :=
    Instruction.decode_miscellaneous x 0x0 0xA
  have gone : { m.prepared.retreat with
      processor.keyRegister := x
      processor.phase := .awaitingKey } = m.parked x := by
    unfold retreat jumpTo parked
    change { m.prepared with
      processor.pc := ((m.processor.pc + 2) % 4096 - 2) % 4096
      processor.keyRegister := x
      processor.phase := .awaitingKey } = _
    rw [back]
  rw [step_of_word running word, decoded, ← gone]
  rfl

theorem poll_of_idle (idle : m.keypad.latch.Idle) : m.poll = m := by
  unfold poll
  rw [Latch.firstDown_of_idle idle]

theorem poll_of_lowest (lowest : m.keypad.latch.Lowest key) :
    m.poll = { m with
      processor.v := m.processor.v.set m.processor.keyRegister (UInt8.ofNat key)
      processor.pc := (m.processor.pc + 2) % 4096
      processor.phase := .running } := by
  unfold poll
  rw [Latch.firstDown_of_lowest lowest]
  rfl

theorem poll_answers (lowest : m.keypad.latch.Lowest key) :
    Answered m m.processor.keyRegister key m.poll := by
  rw [poll_of_lowest lowest]
  refine ⟨rfl, rfl, ?_, ?_, rfl, rfl, rfl, rfl, rfl, rfl, rfl⟩
  · simp only [register, Bank.get_eq, Vector.getElem_set_self, UInt8.toNat_ofNat']
    omega
  · intro y other
    exact Vector.getElem_set_ne (Nibble.lt _) (Nibble.lt _) fun same => other (Fin.ext same.symm)

/-- A machine whose next step looks at the keypad for register `x`: it is about to run the word that
waits, or waits already. -/
inductive AtWait (x : Nibble) (m : Machine) : Prop where
  | first (running : m.processor.phase = .running)
      (word : m.memory.word m.processor.pc = ⟨0xF, x, 0x0, 0xA⟩)
  | later (awaiting : m.processor.phase = .awaitingKey) (register : m.processor.keyRegister = x)

structure Paused (start : Machine) (x : Nibble) (m : Machine) : Prop where
  held : Held start m
  atWait : AtWait x m

theorem Held.refl (m : Machine) : Held m m := ⟨rfl, rfl, rfl, rfl, rfl, rfl, rfl⟩

theorem Held.trans {last : Machine} (h : Held m next) (h' : Held next last) : Held m last where
  registers := h'.registers.trans h.registers
  index := h'.index.trans h.index
  pc := h'.pc.trans h.pc
  stack := h'.stack.trans h.stack
  memory := h'.memory.trans h.memory
  screen := h'.screen.trans h.screen
  noise := h'.noise.trans h.noise

variable {start : Machine}

theorem Paused.unmoved (paused : Paused start x m) (processor : next.processor = m.processor)
    (stack : next.stack = m.stack) (memory : next.memory = m.memory)
    (screen : next.screen = m.screen) (noise : next.noise = m.noise) : Paused start x next where
  held := paused.held.trans ⟨congrArg Processor.v processor, congrArg Processor.i processor,
    congrArg Processor.pc processor, stack, memory, screen, noise⟩
  atWait := by
    cases paused.atWait with
    | first running word => exact .first (processor ▸ running) (processor ▸ memory ▸ word)
    | later awaiting register => exact .later (processor ▸ awaiting) (processor ▸ register)

theorem paused_pauseInvariant (start : Machine) (x : Nibble) : PauseInvariant (Paused start x) where
  tick h := h.unmoved rfl rfl rfl rfl rfl
  count h := h.unmoved rfl rfl rfl rfl rfl
  keys h _ := h.unmoved rfl rfl rfl rfl rfl

section Steps

variable (range : 0 ≤ start.processor.pc ∧ start.processor.pc < 4096)
include range

theorem Paused.step (paused : Paused start x m) :
    ∃ waiting, Machine.step m = .ok () waiting.poll ∧ Held m waiting ∧
      waiting.processor.phase = .awaitingKey ∧ waiting.processor.keyRegister = x ∧
      waiting.timers = m.timers ∧ waiting.keypad = m.keypad := by
  cases paused.atWait with
  | first running word =>
    rw [← paused.held.pc] at range
    exact ⟨m.parked x, step_awaitKey range running word, ⟨rfl, rfl, rfl, rfl, rfl, rfl, rfl⟩,
      rfl, rfl, rfl, rfl⟩
  | later awaiting register =>
    exact ⟨m, step_of_awaiting awaiting, Held.refl m, awaiting, register, rfl, rfl⟩

theorem Paused.idle (paused : Paused start x m) (idle : m.keypad.latch.Idle) :
    ∃ next, Machine.step m = .ok () next ∧ Paused start x next := by
  obtain ⟨waiting, done, held, awaiting, register, -, keypad⟩ := paused.step range
  rw [poll_of_idle (keypad ▸ idle)] at done
  exact ⟨waiting, done, paused.held.trans held, .later awaiting register⟩

theorem Paused.answered (paused : Paused start x m) (lowest : m.keypad.latch.Lowest key) :
    ∃ next, Machine.step m = .ok () next ∧ Answered m x key next := by
  obtain ⟨waiting, done, held, -, register, timers, keypad⟩ := paused.step range
  have answer := poll_answers (m := waiting) (keypad ▸ lowest)
  rw [register] at answer
  refine ⟨waiting.poll, done, answer.phase, ?_, answer.pressed, ?_, answer.index.trans held.index,
    answer.stack.trans held.stack, answer.memory.trans held.memory,
    answer.screen.trans held.screen, answer.timers.trans timers, answer.keypad.trans keypad,
    answer.noise.trans held.noise⟩
  · rw [answer.pc, held.pc]
  · intro y other
    rw [answer.others y other]
    unfold Machine.register
    rw [held.registers]

end Steps

def burst : Nat → Machine → List Machine
  | 0, _ => []
  | n + 1, m =>
    m :: match step m with
      | .ok _ next => burst n next
      | .error _ _ => []

end Machine

namespace Operation

variable {τ σ : Type}

def starts (m : Machine) : Operation → List Machine
  | .step => [m]
  | .frame => Machine.burst m.settings.stepsPerFrame.toNat m
  | _ => []

def historyStarts (host : Host τ σ) : List Operation → Machine × σ → List Machine
  | [], _ => []
  | operation :: operations, s =>
    operation.starts s.1 ++ historyStarts host operations (stateAfter (operation.run host) s)

end Operation

namespace Machine

variable {m next start : Machine} {x key : Nibble} {P : Machine → Prop}

/-- A predicate holds of the machines of a list up to the first one that has a key down, which it
holds of too. -/
def UntilPressed (P : Machine → Prop) : List Machine → Prop
  | [] => True
  | m :: rest => P m ∧ (m.keypad.latch.Idle → UntilPressed P rest)

theorem UntilPressed.append {first second : List Machine} (h : UntilPressed P first)
    (h' : (∀ m ∈ first, m.keypad.latch.Idle) → UntilPressed P second) :
    UntilPressed P (first ++ second) := by
  induction first with
  | nil => exact h' (by simp)
  | cons m rest ih =>
    refine ⟨h.1, fun idle => ih (h.2 idle) fun others => h' fun other member => ?_⟩
    rcases List.mem_cons.1 member with rfl | member
    · exact idle
    · exact others other member

theorem UntilPressed.reaches {before after : List Machine} {t : Machine}
    (h : UntilPressed P (before ++ t :: after)) (idle : ∀ m ∈ before, m.keypad.latch.Idle) :
    P t := by
  induction before with
  | nil => exact h.1
  | cons m rest ih =>
    exact ih (h.2 (idle m (List.mem_cons_self ..)))
      fun other member => idle other (List.mem_cons_of_mem _ member)

theorem untilPressed_burst (range : 0 ≤ start.processor.pc ∧ start.processor.pc < 4096)
    (paused : Paused start x m) (n : Nat) :
    UntilPressed (Paused start x) (burst n m) ∧
      ((∀ t ∈ burst n m, t.keypad.latch.Idle) → Paused start x (stateAfter (steps n) m)) := by
  induction n generalizing m with
  | zero => exact ⟨trivial, fun _ => paused⟩
  | succ n ih =>
    refine ⟨⟨paused, fun idle => ?_⟩, fun idle => ?_⟩
    · obtain ⟨next, done, still⟩ := paused.idle range idle
      rw [done]
      exact (ih still).1
    · obtain ⟨next, done, still⟩ := paused.idle range (idle m (List.mem_cons_self ..))
      have first : stateAfter (steps (n + 1)) m = stateAfter (steps n) next :=
        stateAfter_bind_of_ok done
      unfold burst at idle
      rw [done] at idle
      rw [first]
      exact (ih still).2 fun t member => idle t (List.mem_cons_of_mem _ member)

variable {τ σ : Type}

theorem untilPressed_starts (range : 0 ≤ start.processor.pc ∧ start.processor.pc < 4096)
    (host : Host τ σ) {s : Machine × σ} (paused : Paused start x s.1) {operation : Operation}
    (onward : operation.onward = true) :
    UntilPressed (Paused start x) (operation.starts s.1) ∧
      ((∀ t ∈ operation.starts s.1, t.keypad.latch.Idle) →
        Paused start x (stateAfter (operation.run host) s).1) := by
  have between := paused_pauseInvariant start x
  cases operation with
  | step =>
    refine ⟨⟨paused, fun _ => trivial⟩, fun idle => ?_⟩
    obtain ⟨next, done, still⟩ := paused.idle range (idle s.1 (List.mem_singleton_self _))
    rw [Operation.machine_step, stateAfter_of_ok done]
    exact still
  | frame =>
    obtain ⟨polls, rest⟩ := untilPressed_burst range paused s.1.settings.stepsPerFrame.toNat
    refine ⟨polls, fun idle => ?_⟩
    have stepped : Paused start x
        (stateAfter (Session.machine (steps s.1.settings.stepsPerFrame.toNat)) s).1 := by
      rw [Session.stateAfter_machine]
      exact rest idle
    have settled := Keeps.followedBy (P := fun s : Machine × σ => Paused start x s.1) stepped
      fun _ => between.keeps_settle host
    exact settled
  | tick => exact ⟨trivial, fun _ => between.keeps_tick host s paused⟩
  | setKey symbol down => exact ⟨trivial, fun _ => between.keeps_setKey host symbol down s paused⟩
  | releaseAll => exact ⟨trivial, fun _ => between.keeps_releaseAll host s paused⟩
  | load | reset => cases onward

theorem untilPressed_historyStarts (range : 0 ≤ start.processor.pc ∧ start.processor.pc < 4096)
    (host : Host τ σ) {s : Machine × σ} (paused : Paused start x s.1) {operations : List Operation}
    (onward : ∀ operation ∈ operations, operation.onward = true) :
    UntilPressed (Paused start x) (Operation.historyStarts host operations s) ∧
      ((∀ t ∈ Operation.historyStarts host operations s, t.keypad.latch.Idle) →
        Paused start x (Operation.history host operations s).1) := by
  induction operations generalizing s with
  | nil => exact ⟨trivial, fun _ => paused⟩
  | cons operation operations ih =>
    obtain ⟨polls, rest⟩ :=
      untilPressed_starts range host paused (onward operation (List.mem_cons_self ..))
    have later (still : Paused start x (stateAfter (operation.run host) s).1) :=
      ih still fun other member => onward other (List.mem_cons_of_mem _ member)
    -- Until a key is found the first operation leaves a paused machine to the others.
    refine ⟨polls.append fun idle => (later (rest idle)).1, fun idle => ?_⟩
    unfold Operation.historyStarts at idle
    exact (later (rest fun t member => idle t (List.mem_append_left _ member))).2
      fun t member => idle t (List.mem_append_right _ member)

theorem phase_plainInvariant (phase : Phase) :
    PlainInvariant fun m => m.processor.phase = phase where
  registers h _ := h
  jump h _ _ := h
  index h _ _ := h
  darken h := h
  draw h _ _ _ := h
  time h _ := h
  noise h := h
  store h _ := h

theorem phase_execute (running : m.processor.phase = .running) {instruction : Instruction}
    (other : ∀ x, instruction ≠ .awaitKey x) :
    (stateAfter (execute instruction) m).processor.phase = .running := by
  cases instruction with
  | awaitKey x => exact absurd rfl (other x)
  | ret =>
    change (stateAfter returnBack m).processor.phase = .running
    unfold stateAfter returnBack
    cases m.stack.pop <;> exact running
  | call target =>
    change (stateAfter (callTo target) m).processor.phase = .running
    unfold stateAfter callTo
    cases m.stack.push m.processor.pc <;> exact running
  | _ => exact (phase_plainInvariant .running).execute running rfl

theorem waiting_poll (waiting : m.Waiting) (awaiting : m.poll.processor.phase = .awaitingKey) :
    m.poll.Waiting := by
  unfold poll at awaiting ⊢
  cases found : m.keypad.latch.firstDown with
  | none => exact waiting
  | some key =>
    rw [found] at awaiting
    cases awaiting

structure WaitsWell (m : Machine) : Prop where
  range : m.InRange
  waiting : m.processor.phase = .awaitingKey → m.Waiting

theorem WaitsWell.step (h : m.WaitsWell) : (stateAfter Machine.step m).WaitsWell := by
  refine ⟨inRange_invariant.toHistoryInvariant.step h.range, fun awaiting => ?_⟩
  cases phase : m.processor.phase with
  | awaitingKey =>
    rw [stateAfter_of_ok (step_of_awaiting phase)] at awaiting ⊢
    exact waiting_poll (h.waiting phase) awaiting
  | running =>
    by_cases waits : ∃ x, Instruction.decode (m.memory.word m.processor.pc) = .awaitKey x
    · -- The word is spelt by its instruction, so the instruction tells what the machine waits on.
      obtain ⟨x, decoded⟩ := waits
      have spelled := Instruction.encode_decode (m.memory.word m.processor.pc)
      rw [decoded] at spelled
      rw [stateAfter_of_ok (step_awaitKey h.range.pc phase spelled.symm)] at awaiting ⊢
      exact waiting_poll ⟨spelled.symm, rfl, rfl⟩ awaiting
    · have goes := phase_execute (m := m.prepared) phase fun x decoded => waits ⟨x, decoded⟩
      rw [stateAfter_step_of_running phase, goes] at awaiting
      cases awaiting

theorem WaitsWell.unmoved (h : m.WaitsWell) (range : next.InRange)
    (processor : next.processor = m.processor) (memory : next.memory = m.memory) :
    next.WaitsWell := by
  refine ⟨range, fun awaiting => ?_⟩
  rw [processor] at awaiting
  have waiting := h.waiting awaiting
  exact ⟨processor ▸ waiting.opcode, processor ▸ waiting.pc, processor ▸ memory ▸ waiting.word⟩

theorem waitsWell_historyInvariant : HistoryInvariant WaitsWell :=
  have ranges := inRange_invariant.toHistoryInvariant
  { tick := fun h => h.unmoved (ranges.tick h.range) rfl rfl
    count := fun h => h.unmoved (ranges.count h.range) rfl rfl
    keys := fun h latch => h.unmoved (ranges.keys h.range latch) rfl rfl
    step := WaitsWell.step
    load := fun h checked => ⟨ranges.load h.range checked, fun awaiting => by cases awaiting⟩
    reset := fun h => ⟨ranges.reset h.range, fun awaiting => by cases awaiting⟩ }

theorem waitsWell_new (settings : Settings) (keymap : Keymap) (noise : Noise) :
    (new settings keymap noise).WaitsWell :=
  ⟨inRange_new settings keymap noise, fun awaiting => by cases awaiting⟩

/-- A machine only ever waits on the word it waits for. From the instruction that waits on, through
whatever is done but loads and resets, the steps that find no key down fail nothing and change
nothing, and the first that finds one puts the lowest into the register and goes on behind the
word. -/
theorem history_keyWait (host : Host τ σ) (world : σ) (settings : Settings) (keymap : Keymap)
    (noise : Noise) (past : List Operation) :
    let s := Operation.history host past (new settings keymap noise, world)
    (s.1.processor.phase = .awaitingKey → s.1.Waiting) ∧
    ∀ x, s.1.processor.phase = .running →
      s.1.memory.word s.1.processor.pc = ⟨0xF, x, 0x0, 0xA⟩ →
    ∀ following : List Operation, (∀ operation ∈ following, operation.onward = true) →
      let starts := Operation.historyStarts host following s
      ((∀ t ∈ starts, t.keypad.latch.Idle) →
        Held s.1 (Operation.history host following s).1) ∧
      ∀ before t after, starts = before ++ t :: after → (∀ m ∈ before, m.keypad.latch.Idle) →
        Held s.1 t ∧
        (t.keypad.latch.Idle → ∃ next, step t = .ok () next ∧ Held s.1 next) ∧
        ∀ key, t.keypad.latch.Lowest key →
          ∃ next, step t = .ok () next ∧ Answered t x key next := by
  intro s
  have good : s.1.WaitsWell :=
    waitsWell_historyInvariant.history host past _ (waitsWell_new settings keymap noise)
  refine ⟨good.waiting, fun x running word following onward => ?_⟩
  have began : Paused s.1 x s.1 := ⟨Held.refl s.1, .first running word⟩
  obtain ⟨polls, rest⟩ := untilPressed_historyStarts good.range.pc host began onward
  refine ⟨fun idle => (rest idle).held, fun before t after split idle => ?_⟩
  rw [split] at polls
  have paused := polls.reaches idle
  refine ⟨paused.held, fun up => ?_, fun key lowest => paused.answered good.range.pc lowest⟩
  obtain ⟨next, done, still⟩ := paused.idle good.range.pc up
  exact ⟨next, done, still.held⟩

theorem keypad_step_setKey {s : Machine × σ}
    (range : 0 ≤ s.1.processor.pc ∧ s.1.processor.pc < 4096)
    (running : s.1.processor.phase = .running)
    (word : s.1.memory.word s.1.processor.pc = ⟨0xF, x, 0x0, 0xA⟩) (idle : s.1.keypad.latch.Idle)
    (host : Host τ σ) (symbol : String) :
    (Operation.history host [.step, .setKey symbol true] s).1.keypad =
      s.1.keypad.set symbol true := by
  have done := step_awaitKey range running word
  rw [poll_of_idle (m := s.1.parked x) idle] at done
  have waits : (stateAfter (Operation.step.run host) s).1 = s.1.parked x := by
    rw [Operation.machine_step, stateAfter_of_ok done]
  change (stateAfter (Operation.step.run host) s).1.keypad.set symbol true = _
  rw [waits]
  rfl

def waiter : Array UInt8 := #[0xF3, 0x0A]

theorem history_keyWait_pressed :
    let keymap : Keymap := [("k", 5)]
    let s := Operation.history Host.silent [.load waiter] (new {} keymap (Noise.cycle #[]), ())
    let t := Operation.history Host.silent [.step, .setKey "k" true] s
    s.1.processor.phase = .running ∧ s.1.memory.word s.1.processor.pc = ⟨0xF, 3, 0x0, 0xA⟩ ∧
      s.1.keypad.latch.Idle ∧ t.1.keypad.latch.Lowest 5 ∧ Held s.1 t.1 ∧
      ∃ next, step t.1 = .ok () next ∧ Answered t.1 3 5 next := by
  have waits := history_keyWait Host.silent () {} [("k", 5)] (Noise.cycle #[]) [.load waiter]
  dsimp only at waits ⊢
  generalize loaded : Operation.history Host.silent [.load waiter]
    (new {} [("k", 5)] (Noise.cycle #[]), ()) = s at waits ⊢
  have running : s.1.processor.phase = .running := loaded ▸ rfl
  have keypad : s.1.keypad = Keypad.ofKeymap [("k", 5)] := loaded ▸ rfl
  have pc : s.1.processor.pc = 0x200 := loaded ▸ rfl
  have word : s.1.memory.word s.1.processor.pc = ⟨0xF, 3, 0x0, 0xA⟩ := by
    rw [← loaded]
    exact Memory.word_image waiter (k := 0) (by decide)
  have up : s.1.keypad.latch.Idle := by
    rw [keypad]
    unfold Latch.Idle
    decide
  have pressed := keypad_step_setKey (by rw [pc]; decide) running word up Host.silent "k"
  have still :
      (Operation.history Host.silent [.step, .setKey "k" true] s).1.keypad.latch.Lowest 5 := by
    rw [pressed, keypad]
    unfold Latch.Lowest
    decide
  have reached := (waits.2 3 running word [.step, .setKey "k" true, .step] (by decide)).2
    [s.1] _ [] rfl (by simpa using up)
  exact ⟨running, word, up, still, reached.1, reached.2.2 5 still⟩

end Machine

end Chip8
