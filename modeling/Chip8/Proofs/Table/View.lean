import Chip8.Proofs.Bytes
import Chip8.Proofs.Ranges
import Chip8.Proofs.Table

namespace Chip8

namespace Machine

def console (m : Machine) : Console where
  v x := (m.register x).toNat
  i := m.processor.i.toNat
  pc := m.processor.pc.toNat
  stack := m.stack.toList.map Int.toNat
  memory address := (m.memory.get address).toNat
  pixel column line := (m.screen.pixel column line).toNat
  delay := m.timers.delay.toNat
  sound := m.timers.sound.toNat
  down key := m.keypad.latch.get key
  noise := m.noise
  phase := m.processor.phase
  keyRegister := m.processor.keyRegister

/-- The part of a machine that consoles leave out. -/
structure Margin where
  fetchedAt : Int
  opcode : Opcode
  keymap : Keymap
  settings : Settings
  printed : Array String
  program : Array UInt8
  frames : Nat
  reportFrames : Nat
  reportSteps : Int

def margin (m : Machine) : Margin where
  fetchedAt := m.processor.fetchedAt
  opcode := m.processor.opcode
  keymap := m.keypad.keymap
  settings := m.settings
  printed := m.printed
  program := m.program
  frames := m.frames
  reportFrames := m.reportFrames
  reportSteps := m.reportSteps

theorem margin_instructionInvariant (margin : Margin) :
    InstructionInvariant fun m => m.margin = margin where
  registers h _ := h
  jump h _ _ := h
  index h _ _ := h
  park h _ _ := h
  darken h := h
  draw h _ _ _ := h
  time h _ := h
  noise h := h
  store h _ := h
  call h _ := h
  ret h _ := h

variable {m : Machine}

theorem console_setRegister (m : Machine) (x : Nibble) (value : UInt8) :
    (m.setRegister x value).console = m.console.set x value.toNat := by
  apply Console.ext
  case v =>
    funext k
    simp only [console, register, setRegister, Console.set, Function.update_apply, Bank.get_eq,
      Vector.getElem_set]
    by_cases here : k = x
    · simp [here]
    · simp [here, Fin.val_inj, Ne.symm here]
  all_goals rfl

theorem console_setFlag (m : Machine) (flag : Bool) :
    (m.setFlag flag).console = m.console.setFlag (if flag then 1 else 0) := by
  unfold setFlag
  rw [console_setRegister, toNat_bit]
  rfl

theorem console_jumpTo (m : Machine) (address : Int) :
    (m.jumpTo address).console = { m.console with pc := address.toNat } := rfl

theorem console_setIndex (m : Machine) (value : Int) :
    (m.setIndex value).console = { m.console with i := value.toNat } := rfl

theorem console_advance (h : m.WellFormed) : m.advance.console = m.console.next := by
  have range := h.pc
  unfold advance
  rw [console_jumpTo]
  unfold Console.next
  have moved : ((m.processor.pc + 2) % 4096).toNat = (m.processor.pc.toNat + 2) % 4096 := by omega
  rw [moved]
  rfl

theorem console_skipIf (h : m.WellFormed) (condition : Bool) :
    (m.skipIf condition).console = if condition then m.console.next else m.console := by
  unfold skipIf
  cases condition
  · rfl
  · exact console_advance h

theorem console_combine (m : Machine) (x y : Nibble) (f : UInt8 → UInt8 → UInt8) :
    (m.combine x y f).console = m.console.set x (f (m.register x) (m.register y)).toNat :=
  console_setRegister m x _

theorem console_combineLogic (m : Machine) (x y : Nibble) (f : UInt8 → UInt8 → UInt8) :
    (m.combineLogic x y f).console =
      if m.settings.dialect.clearsFlag then
        (m.console.set x (f (m.register x) (m.register y)).toNat).setFlag 0
      else m.console.set x (f (m.register x) (m.register y)).toNat := by
  unfold combineLogic
  dsimp only
  split
  · rw [console_setRegister, console_combine]
    rfl
  · exact console_combine m x y f

theorem console_indexMoved (h : m.WellFormed) (x : Nibble) :
    (m.indexMoved x).console = m.console.moveIndex m.settings.dialect (x + 1) := by
  have range := h.index
  unfold indexMoved Console.moveIndex
  split
  · rw [console_setIndex]
    have moved : ((m.processor.i + x.val + 1) % 65536).toNat =
        (m.processor.i.toNat + (x.val + 1)) % 65536 := by omega
    rw [moved]
    rfl
  · rfl

theorem byte_toNat (m : Machine) {address : Int} {a : Nat} (same : address = a) :
    (m.memory.byte address).toNat = m.console.cell a := by
  have located : Memory.place address = Fin.ofNat 4096 a := by
    apply Fin.ext
    simp only [Memory.place, Fin.ofNat]
    omega
  simp only [Memory.byte, located]
  rfl

theorem console_word (h : m.WellFormed) : m.memory.word m.processor.pc = m.console.word := by
  have range := h.pc
  unfold Memory.word Opcode.ofBytes Console.word
  rw [byte_toNat m (a := m.processor.pc.toNat) (by omega),
    byte_toNat m (a := m.processor.pc.toNat + 1) (by omega)]
  rfl

theorem pixel_toNat (m : Machine) {column : Fin 64} {line : Fin 32} {k : Nat} (hk : k < 64 * 32)
    (located : Screen.locate 64 32 column line = k) :
    (m.screen.cells[k]).toNat = m.console.pixel column line := by
  subst located
  simp [console, Screen.pixel, hk]

theorem locate_surjective {k : Nat} (hk : k < 64 * 32) :
    ∃ column : Fin 64, ∃ line : Fin 32, Screen.locate 64 32 column line = k := by
  refine ⟨⟨k % 64, by omega⟩, ⟨k / 64, by omega⟩, ?_⟩
  simp only [Screen.locate]
  omega

theorem eq_of_console_of_margin {next : Machine} (h : m.WellFormed) (h' : next.WellFormed)
    (console : m.console = next.console) (margin : m.margin = next.margin) : m = next := by
  have registers : m.processor.v = next.processor.v :=
    bank_eq fun k => congrFun (congrArg Console.v console) k
  have memory : m.memory = next.memory :=
    bank_eq fun k => congrFun (congrArg Console.memory console) k
  have cells : m.screen.cells = next.screen.cells := by
    apply bank_eq
    intro k
    obtain ⟨column, line, located⟩ := locate_surjective k.isLt
    exact (pixel_toNat m k.isLt located).trans (console ▸ (pixel_toNat next k.isLt located).symm)
  have latch : m.keypad.latch = next.keypad.latch := by
    apply Vector.ext
    intro k hk
    exact congrFun (congrArg Console.down console) ⟨k, hk⟩
  have items : m.stack.items = next.stack.items := by
    apply List.reverse_injective
    refine eq_of_map_toNat ?_ ?_ (congrArg Console.stack console)
    · intro address member
      exact (h.stack.addresses address (List.mem_reverse.1 member)).1
    · intro address member
      exact (h'.stack.addresses address (List.mem_reverse.1 member)).1
  -- Neither of the two tells the limit of the stack, but it is sixteen in both machines.
  have limit : m.stack.limit = next.stack.limit := h.stack.limit.trans h'.stack.limit.symm
  have pc : m.processor.pc = next.processor.pc :=
    eq_of_toNat h.pc.1 h'.pc.1 (congrArg Console.pc console)
  have index : m.processor.i = next.processor.i :=
    eq_of_toNat h.index.1 h'.index.1 (congrArg Console.i console)
  have delay : m.timers.delay = next.timers.delay :=
    UInt8.toNat_inj.1 (congrArg Console.delay console)
  have sound : m.timers.sound = next.timers.sound :=
    UInt8.toNat_inj.1 (congrArg Console.sound console)
  have noise : m.noise = next.noise := congrArg Console.noise console
  have phase : m.processor.phase = next.processor.phase := congrArg Console.phase console
  have keyRegister : m.processor.keyRegister = next.processor.keyRegister :=
    congrArg Console.keyRegister console
  obtain ⟨⟨v, i, pc, fetchedAt, opcode, phase, key⟩, memory, ⟨limit, items⟩, ⟨cells⟩,
    ⟨delay, sound⟩, ⟨keymap, latch⟩⟩ := m
  obtain ⟨⟨v', i', pc', fetchedAt', opcode', phase', key'⟩, memory', ⟨limit', items'⟩, ⟨cells'⟩,
    ⟨delay', sound'⟩, ⟨keymap', latch'⟩⟩ := next
  simp only [Machine.margin, Margin.mk.injEq] at margin
  simp_all

end Machine

end Chip8
