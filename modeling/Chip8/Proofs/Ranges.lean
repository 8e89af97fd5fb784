import Chip8.Proofs.History
import Chip8.Proofs.Screen.Toggling

namespace Chip8

structure CallStack.WellFormed (stack : CallStack) : Prop where
  limit : stack.limit = 16
  depth : stack.depth ≤ 16
  addresses : ∀ address ∈ stack.items, 0 ≤ address ∧ address < 4096

namespace CallStack

variable {stack next : CallStack} {address : Int}

theorem WellFormed.cleared (h : stack.WellFormed) : stack.cleared.WellFormed where
  limit := h.limit
  depth := Nat.zero_le 16
  addresses := by intro address member; cases member

theorem WellFormed.push (h : stack.WellFormed) (range : 0 ≤ address ∧ address < 4096)
    (pushed : stack.push address = .ok next) : next.WellFormed := by
  have limit := h.limit
  unfold CallStack.push at pushed
  split at pushed
  · cases pushed
  · rename_i free
    cases pushed
    refine ⟨limit, ?_, ?_⟩
    · simp only [CallStack.depth, List.length_cons] at free ⊢
      omega
    · intro a member
      rcases List.mem_cons.1 member with rfl | member
      · exact range
      · exact h.addresses a member

theorem WellFormed.pop (h : stack.WellFormed) (popped : stack.pop = .ok (address, next)) :
    (0 ≤ address ∧ address < 4096) ∧ next.WellFormed := by
  have depth := h.depth
  unfold CallStack.pop at popped
  split at popped
  · cases popped
  · rename_i newest rest items
    cases popped
    refine ⟨h.addresses _ (by simp [items]), h.limit, ?_, ?_⟩
    · simp only [CallStack.depth, items, List.length_cons] at depth ⊢
      omega
    · intro a member
      exact h.addresses a (by simp [items, member])

end CallStack

namespace Machine

/-- The ranges of a machine that is about to take a step. -/
structure WellFormed (m : Machine) : Prop where
  pc : 0 ≤ m.processor.pc ∧ m.processor.pc < 4096
  index : 0 ≤ m.processor.i ∧ m.processor.i < 65536
  stack : m.stack.WellFormed
  screen : m.screen.IsBinary

structure InRange (m : Machine) : Prop extends WellFormed m where
  fetchedAt : 0 ≤ m.processor.fetchedAt ∧ m.processor.fetchedAt < 4096

theorem WellFormed.reset {m : Machine} (h : m.WellFormed) : m.reset.InRange where
  pc := show 0 ≤ (0x200 : Int) ∧ (0x200 : Int) < 4096 by decide
  index := show 0 ≤ (0 : Int) ∧ (0 : Int) < 65536 by decide
  stack := h.stack.cleared
  screen := Screen.dark_isBinary
  fetchedAt := show 0 ≤ (0x200 : Int) ∧ (0x200 : Int) < 4096 by decide

theorem inRange_new (settings : Settings) (keymap : Keymap) (noise : Noise) :
    (new settings keymap noise).InRange where
  pc := show 0 ≤ (0x200 : Int) ∧ (0x200 : Int) < 4096 by decide
  index := show 0 ≤ (0 : Int) ∧ (0 : Int) < 65536 by decide
  stack := ⟨rfl, Nat.zero_le 16, by intro address member; cases member⟩
  screen := Screen.dark_isBinary
  fetchedAt := show 0 ≤ (0x200 : Int) ∧ (0x200 : Int) < 4096 by decide

theorem WellFormed.fetched {m : Machine} (h : m.WellFormed) : m.fetched.InRange where
  pc := by
    change 0 ≤ (m.processor.pc + 2) % 4096 ∧ (m.processor.pc + 2) % 4096 < 4096
    omega
  index := h.index
  stack := h.stack
  screen := h.screen
  fetchedAt := h.pc

theorem inRange_instructionInvariant : InstructionInvariant InRange where
  registers h _ := ⟨⟨h.pc, h.index, h.stack, h.screen⟩, h.fetchedAt⟩
  jump h low high := ⟨⟨⟨low, high⟩, h.index, h.stack, h.screen⟩, h.fetchedAt⟩
  index h low high := ⟨⟨h.pc, ⟨low, high⟩, h.stack, h.screen⟩, h.fetchedAt⟩
  park h _ _ := ⟨⟨h.pc, h.index, h.stack, h.screen⟩, h.fetchedAt⟩
  darken h := ⟨⟨h.pc, h.index, h.stack, Screen.dark_isBinary⟩, h.fetchedAt⟩
  draw h x y rows := ⟨⟨h.pc, h.index, h.stack, h.screen.draw x y rows⟩, h.fetchedAt⟩
  time h _ := ⟨⟨h.pc, h.index, h.stack, h.screen⟩, h.fetchedAt⟩
  noise h := ⟨⟨h.pc, h.index, h.stack, h.screen⟩, h.fetchedAt⟩
  store h _ := ⟨⟨h.pc, h.index, h.stack, h.screen⟩, h.fetchedAt⟩
  call h pushed := ⟨⟨h.pc, h.index, h.stack.push h.pc pushed, h.screen⟩, h.fetchedAt⟩
  ret h popped :=
    have range := h.stack.pop popped
    ⟨⟨range.1, h.index, range.2, h.screen⟩, h.fetchedAt⟩

theorem inRange_invariant : Invariant InRange where
  toInstructionInvariant := inRange_instructionInvariant
  fetch h := h.fetched
  print h _ := ⟨⟨h.pc, h.index, h.stack, h.screen⟩, h.fetchedAt⟩
  load {m program} h _ :=
    WellFormed.reset (m := { m with program }) ⟨h.pc, h.index, h.stack, h.screen⟩
  reset h := h.reset
  count h := ⟨⟨h.pc, h.index, h.stack, h.screen⟩, h.fetchedAt⟩
  keys h _ := ⟨⟨h.pc, h.index, h.stack, h.screen⟩, h.fetchedAt⟩

/-- The extent of every component: sixteen registers, 4096 cells, 2048 pixels and so on. -/
structure InBounds (m : Machine) : Prop where
  registers : m.processor.v.toList.length = 16 ∧ ∀ value ∈ m.processor.v.toList, value.toNat ≤ 0xFF
  pc : 0 ≤ m.processor.pc ∧ m.processor.pc ≤ 0xFFF
  fetchedAt : 0 ≤ m.processor.fetchedAt ∧ m.processor.fetchedAt ≤ 0xFFF
  opcode : m.processor.opcode.toNat ≤ 0xFFFF
  index : 0 ≤ m.processor.i ∧ m.processor.i ≤ 0xFFFF
  keyRegister : m.processor.keyRegister.val ≤ 0xF
  stack : m.stack.toList.length ≤ 16 ∧ ∀ address ∈ m.stack.toList, 0 ≤ address ∧ address ≤ 0xFFF
  timers : m.timers.delay.toNat ≤ 0xFF ∧ m.timers.sound.toNat ≤ 0xFF
  latch : m.keypad.latch.toList.length = 16
  memory : m.memory.toList.length = 4096 ∧ ∀ value ∈ m.memory.toList, value.toNat ≤ 0xFF
  plane : m.screen.frame.size = 2048 ∧ ∀ pixel ∈ m.screen.frame, pixel = 0 ∨ pixel = 1

theorem frame_isBinary {screen : Screen 64 32} (binary : screen.IsBinary) :
    ∀ pixel ∈ screen.frame, pixel = 0 ∨ pixel = 1 := by
  intro pixel member
  obtain ⟨k, hk, rfl⟩ := Array.mem_iff_getElem.1 member
  have inside : k < 64 * 32 := by simpa [Screen.frame] using hk
  exact binary k inside

theorem InRange.inBounds {m : Machine} (h : m.InRange) : m.InBounds where
  registers := ⟨by simp, fun value _ => Nat.le_of_lt_succ value.toNat_lt⟩
  pc := ⟨h.pc.1, Int.le_of_lt_add_one h.pc.2⟩
  fetchedAt := ⟨h.fetchedAt.1, Int.le_of_lt_add_one h.fetchedAt.2⟩
  opcode := Nat.le_of_lt_succ m.processor.opcode.toNat_lt
  index := ⟨h.index.1, Int.le_of_lt_add_one h.index.2⟩
  keyRegister := Nat.le_of_lt_succ m.processor.keyRegister.isLt
  stack := by
    refine ⟨by rw [CallStack.length_toList]; exact h.stack.depth, ?_⟩
    intro address member
    have range := h.stack.addresses address (List.mem_reverse.1 member)
    exact ⟨range.1, Int.le_of_lt_add_one range.2⟩
  timers := ⟨Nat.le_of_lt_succ m.timers.delay.toNat_lt, Nat.le_of_lt_succ m.timers.sound.toNat_lt⟩
  latch := by simp
  memory := ⟨by simp, fun value _ => Nat.le_of_lt_succ value.toNat_lt⟩
  plane := ⟨by simp [Screen.frame], frame_isBinary h.screen⟩

/-- Whatever is done to a new machine, and however often it fails, every component stays within its
extent. -/
theorem history_inBounds {τ σ : Type} (host : Host τ σ) (world : σ) (settings : Settings)
    (keymap : Keymap) (noise : Noise) (operations : List Operation) :
    (Operation.history host operations (new settings keymap noise, world)).1.InBounds :=
  (inRange_invariant.history host operations _ (inRange_new settings keymap noise)).inBounds

end Machine

end Chip8
