import Chip8.Memory.Agreement
import Chip8.Proofs.Table.Refinement

namespace Chip8

namespace Operation

def single : Operation → Bool
  | .step | .tick | .setKey _ _ | .releaseAll => true
  | .load _ | .reset | .frame => false

end Operation

namespace Machine

variable {m next : Machine}

theorem stack_plainInvariant (stack : CallStack) : PlainInvariant fun m => m.stack = stack where
  registers h _ := h
  jump h _ _ := h
  index h _ _ := h
  darken h := h
  draw h _ _ _ := h
  time h _ := h
  noise h := h
  store h _ := h

theorem stack_poll (m : Machine) : m.poll.stack = m.stack := by
  unfold poll
  cases m.keypad.latch.firstDown <;> rfl

/-- What may become of the call stack, with the place a machine goes to where it takes an address
off. -/
inductive StackMove (m next : Machine) : Prop where
  | keep (same : next.stack.items = m.stack.items)
  | push (address : Int) (pushed : next.stack.items = address :: m.stack.items)
  | pop (running : m.processor.phase = .running)
      (word : m.memory.word m.processor.pc = ⟨0x0, 0x0, 0xE, 0xE⟩)
      (popped : m.stack.items = next.processor.pc :: next.stack.items)

theorem items_callTo (m : Machine) (target : Address) :
    (stateAfter (callTo target) m).stack.items = m.stack.items ∨
      (stateAfter (callTo target) m).stack.items = m.processor.pc :: m.stack.items := by
  unfold stateAfter callTo CallStack.push
  by_cases full : m.stack.limit ≤ m.stack.depth
  · left
    simp only [full, if_true]
  · right
    simp only [full, if_false]
    rfl

theorem items_returnBack (m : Machine) :
    (stateAfter returnBack m).stack.items = m.stack.items ∨
      m.stack.items =
        (stateAfter returnBack m).processor.pc :: (stateAfter returnBack m).stack.items := by
  unfold stateAfter returnBack CallStack.pop
  cases items : m.stack.items with
  | nil =>
    left
    exact items
  | cons address rest =>
    right
    rfl

theorem stackMove_step (m : Machine) : StackMove m (stateAfter step m) := by
  cases phase : m.processor.phase with
  | awaitingKey =>
    refine .keep ?_
    rw [stateAfter_of_ok (step_of_awaiting phase), stack_poll]
  | running =>
    have spelled := Instruction.encode_decode (m.memory.word m.processor.pc)
    rw [stateAfter_step_of_running phase]
    cases decoded : Instruction.decode (m.memory.word m.processor.pc) with
    | call target =>
      rcases items_callTo m.prepared target with same | pushed
      · exact .keep same
      · exact .push _ pushed
    | ret =>
      rw [decoded] at spelled
      rcases items_returnBack m.prepared with same | popped
      · exact .keep same
      · exact .pop phase spelled.symm popped
    | awaitKey x => exact .keep (congrArg CallStack.items (stack_poll _))
    | _ =>
      exact .keep (congrArg CallStack.items
        ((stack_plainInvariant m.stack).execute (m := m.prepared) rfl rfl))

variable {τ σ : Type} {host : Host τ σ} {s : Machine × σ}

theorem stackMove_run (host : Host τ σ) {operation : Operation} (single : operation.single = true)
    (s : Machine × σ) :
    (stateAfter (operation.run host) s).1.stack.items = s.1.stack.items ∨
      operation = .step ∧ StackMove s.1 (stateAfter (operation.run host) s).1 := by
  cases operation with
  | step =>
    right
    have moved := stackMove_step s.1
    rw [Operation.machine_step]
    exact ⟨rfl, moved⟩
  | tick =>
    left
    rw [Operation.machine_tick]
  | setKey | releaseAll => exact .inl rfl
  | load | reset | frame => cases single

theorem suffix_items_history (host : Host τ σ) {frames : List Int} {operations : List Operation}
    (single : ∀ operation ∈ operations, operation.single = true)
    (older : frames <:+ s.1.stack.items)
    (deep : ∀ before, before <+: operations →
      frames.length ≤ (Operation.history host before s).1.stack.depth) :
    frames <:+ (Operation.history host operations s).1.stack.items := by
  induction operations generalizing s with
  | nil => exact older
  | cons operation operations ih =>
    have first := single operation (List.mem_cons_self ..)
    have depth := deep [operation] (List.prefix_append [operation] operations)
    refine ih (s := stateAfter (operation.run host) s)
      (fun other member => single other (List.mem_cons_of_mem _ member)) ?_
      fun before below => deep (operation :: before) (List.cons_prefix_cons.2 ⟨rfl, below⟩)
    change frames.length ≤ (stateAfter (operation.run host) s).1.stack.items.length at depth
    rcases stackMove_run host first s with same | ⟨-, same | ⟨address, pushed⟩ | ⟨-, -, popped⟩⟩
    · rw [same]
      exact older
    · rw [same]
      exact older
    · rw [pushed]
      exact older.trans (List.suffix_cons ..)
    · rw [popped] at older
      rcases List.suffix_cons_iff.1 older with whole | below
      · rw [whole, List.length_cons] at depth
        omega
      · exact below

theorem returns_of_depth (host : Host τ σ) {address : Int} {frames : List Int}
    {operation : Operation} (single : operation.single = true)
    (older : address :: frames <:+ s.1.stack.items)
    (left : (stateAfter (operation.run host) s).1.stack.depth = frames.length) :
    operation = .step ∧ s.1.processor.phase = .running ∧
      s.1.memory.word s.1.processor.pc = ⟨0x0, 0x0, 0xE, 0xE⟩ ∧
      (stateAfter (operation.run host) s).1.processor.pc = address ∧
      (stateAfter (operation.run host) s).1.stack.items = frames := by
  have deep := older.length_le
  rw [List.length_cons] at deep
  unfold CallStack.depth at left
  rcases stackMove_run host single s with
    same | ⟨isStep, same | ⟨newest, pushed⟩ | ⟨running, word, popped⟩⟩
  · rw [same] at left
    omega
  · rw [same] at left
    omega
  · rw [pushed, List.length_cons] at left
    omega
  · have length : (address :: frames).length = s.1.stack.items.length := by
      rw [popped, List.length_cons, List.length_cons, left]
    have whole := older.eq_of_length length
    rw [popped] at whole
    obtain ⟨here, below⟩ := List.cons.inj whole
    exact ⟨isStep, running, word, here.symm, below.symm⟩

theorem step_call (running : m.processor.phase = .running) {x y n : Nibble}
    (word : m.memory.word m.processor.pc = ⟨0x2, x, y, n⟩) (room : m.stack.depth < m.stack.limit) :
    step m = .ok () { m.prepared with
      stack.items := (m.processor.pc + 2) % 4096 :: m.stack.items
      processor.pc := (Opcode.address ⟨0x2, x, y, n⟩).val } := by
  have free : ¬ m.prepared.stack.limit ≤ m.prepared.stack.depth := Int.not_le.2 room
  have decoded : Instruction.decode ⟨0x2, x, y, n⟩ = .call (Opcode.address ⟨0x2, x, y, n⟩) := rfl
  rw [step_of_word running word, decoded]
  simp only [execute, callTo, CallStack.push, free, if_false]
  rfl

theorem step_ret (running : m.processor.phase = .running)
    (word : m.memory.word m.processor.pc = ⟨0x0, 0x0, 0xE, 0xE⟩) {address : Int}
    {rest : List Int} (items : m.stack.items = address :: rest) :
    step m = .ok () { m.prepared with
      stack.items := rest
      processor.pc := address } := by
  have prepared : m.prepared.stack.items = address :: rest := items
  have decoded : Instruction.decode ⟨0x0, 0x0, 0xE, 0xE⟩ = .ret := rfl
  rw [step_of_word running word, decoded]
  simp only [execute, returnBack, CallStack.pop, prepared]
  rfl

/-- However a called program goes on, and however often it fails, until it is one address short of
its call the stack of the caller and the address after the call stay on the stack; and what makes it
one address short is a return to that address, which leaves the stack as the caller had it. -/
theorem history_call_returns (host : Host τ σ) (world : σ) (settings : Settings) (keymap : Keymap)
    (noise : Noise) (past : List Operation) (x y n : Nibble) :
    let s := Operation.history host past (new settings keymap noise, world)
    let called := stateAfter (Operation.step.run host) s
    s.1.processor.phase = .running →
    s.1.memory.word s.1.processor.pc = ⟨0x2, x, y, n⟩ →
    s.1.stack.depth < 16 →
    ∀ continuation : List Operation, (∀ operation ∈ continuation, operation.single = true) →
    (∀ before, before <+: continuation →
      s.1.stack.depth + 1 ≤ (Operation.history host before called).1.stack.depth) →
      let t := Operation.history host continuation called
      s.1.stack.toList ++ [(s.1.processor.pc + 2) % 4096] <+: t.1.stack.toList ∧
      ∀ last : Operation, last.single = true →
        let r := stateAfter (last.run host) t
        r.1.stack.depth = s.1.stack.depth →
          last = .step ∧ t.1.processor.phase = .running ∧
          t.1.memory.word t.1.processor.pc = ⟨0x0, 0x0, 0xE, 0xE⟩ ∧
          r.1.processor.pc = (s.1.processor.pc + 2) % 4096 ∧
          r.1.stack.toList = s.1.stack.toList := by
  intro s called running word room continuation single deep t
  have range : s.1.InRange :=
    inRange_invariant.history host past _ (inRange_new settings keymap noise)
  have stepped : called.1 = stateAfter step s.1 := Operation.machine_step host s
  have limit := range.stack.limit
  have newest : called.1.stack.items = (s.1.processor.pc + 2) % 4096 :: s.1.stack.items := by
    rw [stepped, stateAfter_of_ok (step_call running word (by omega))]
  have older : (s.1.processor.pc + 2) % 4096 :: s.1.stack.items <:+ t.1.stack.items := by
    refine suffix_items_history host single ?_ deep
    rw [newest]
  refine ⟨?_, ?_⟩
  · have reversed := List.reverse_prefix.2 older
    rwa [List.reverse_cons] at reversed
  · intro last lastSingle r left
    obtain ⟨isStep, atReturn, spelled, pc, items⟩ := returns_of_depth host lastSingle older left
    exact ⟨isStep, atReturn, spelled, pc, congrArg List.reverse items⟩

theorem depth_call_tick_ret (host : Host τ σ) (running : s.1.processor.phase = .running)
    {x y n : Nibble} (call : s.1.memory.word s.1.processor.pc = ⟨0x2, x, y, n⟩)
    (ret : s.1.memory.word (Opcode.address ⟨0x2, x, y, n⟩).val = ⟨0x0, 0x0, 0xE, 0xE⟩)
    (room : s.1.stack.depth < s.1.stack.limit) :
    let called := stateAfter (Operation.step.run host) s
    let t := stateAfter (Operation.tick.run host) called
    called.1.stack.depth = s.1.stack.depth + 1 ∧ t.1.stack.depth = s.1.stack.depth + 1 ∧
      (stateAfter (Operation.step.run host) t).1.stack.depth = s.1.stack.depth := by
  intro called t
  have calling : called.1 = stateAfter step s.1 := Operation.machine_step host s
  have ticking : t.1 = { called.1 with timers := called.1.timers.tick } :=
    Operation.machine_tick host called
  rw [stateAfter_of_ok (step_call running call room)] at calling
  have inside : t.1.processor.phase = .running ∧
      t.1.memory.word t.1.processor.pc = ⟨0x0, 0x0, 0xE, 0xE⟩ ∧
      t.1.stack.items = (s.1.processor.pc + 2) % 4096 :: s.1.stack.items := by
    rw [ticking, calling]
    exact ⟨running, ret, rfl⟩
  obtain ⟨still, word, items⟩ := inside
  refine ⟨?_, congrArg List.length items, ?_⟩
  · rw [calling]
    rfl
  · rw [Operation.machine_step, stateAfter_of_ok (step_ret still word items)]
    rfl

def roundTrip : Array UInt8 := #[0x22, 0x04, 0x12, 0x02, 0x00, 0xEE]

theorem history_call_returns_roundTrip :
    let s := Operation.history Host.silent [.load roundTrip] (new {} [] (Noise.cycle #[]), ())
    let called := stateAfter (Operation.step.run Host.silent) s
    let t := stateAfter (Operation.tick.run Host.silent) called
    let r := stateAfter (Operation.step.run Host.silent) t
    s.1.processor.phase = .running ∧ s.1.memory.word s.1.processor.pc = ⟨0x2, 0x2, 0x0, 0x4⟩ ∧
      s.1.stack.depth = 0 ∧ called.1.stack.depth = 1 ∧ t.1.stack.depth = 1 ∧
      r.1.stack.depth = 0 ∧ r.1.processor.pc = 0x202 := by
  have nested := history_call_returns Host.silent () {} [] (Noise.cycle #[]) [.load roundTrip]
    0x2 0x0 0x4
  dsimp only at nested ⊢
  generalize loaded :
    Operation.history Host.silent [.load roundTrip] (new {} [] (Noise.cycle #[]), ()) = s
    at nested ⊢
  have running : s.1.processor.phase = .running := loaded ▸ rfl
  have empty : s.1.stack = ⟨16, []⟩ := loaded ▸ rfl
  have call : s.1.memory.word s.1.processor.pc = ⟨0x2, 0x2, 0x0, 0x4⟩ := by
    rw [← loaded]
    exact Memory.word_image roundTrip (k := 0) (by decide)
  have ret : s.1.memory.word (Opcode.address ⟨0x2, 0x2, 0x0, 0x4⟩).val =
      ⟨0x0, 0x0, 0xE, 0xE⟩ := by
    have target : ((Opcode.address ⟨0x2, 0x2, 0x0, 0x4⟩).val : Int) = Memory.programStart + 4 := rfl
    rw [← loaded, target]
    exact Memory.word_image roundTrip (k := 4) (by decide)
  obtain ⟨above, still, left⟩ :=
    depth_call_tick_ret Host.silent running call ret (by rw [empty]; decide)
  have deep (before : List Operation) (below : before <+: [.tick]) :
      s.1.stack.depth + 1 ≤ (Operation.history Host.silent before
        (stateAfter (Operation.step.run Host.silent) s)).1.stack.depth := by
    rcases List.prefix_cons_iff.1 below with rfl | ⟨rest, rfl, short⟩
    · exact Nat.le_of_eq above.symm
    · obtain rfl := List.prefix_nil.1 short
      exact Nat.le_of_eq still.symm
  have returned := (nested running call (by rw [empty]; decide) [.tick]
    (by simp [Operation.single]) deep).2 .step rfl left
  have depth : s.1.stack.depth = 0 := by
    rw [empty]
    rfl
  have pc : s.1.processor.pc = 0x200 := loaded ▸ rfl
  rw [depth] at above still left
  rw [pc] at returned
  exact ⟨running, call, depth, above, still, left, returned.2.2.2.1⟩

end Machine

end Chip8
