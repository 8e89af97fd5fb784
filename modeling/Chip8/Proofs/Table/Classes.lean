import Chip8.Proofs.Table.Lookup
import Chip8.Proofs.Table.Operations

namespace Chip8

namespace Machine

structure Ahead (m : Machine) (c : Console) : Prop where
  wellFormed : m.WellFormed
  view : m.console = c.next
  pc : c.pc < 4096
  running : c.phase = .running

namespace Ahead

variable {m : Machine} {c : Console}

theorem register (ahead : m.Ahead c) (x : Nibble) : (m.register x).toNat = c.v x :=
  congrFun (congrArg Console.v ahead.view) x

theorem setRegister (ahead : m.Ahead c) (x : Nibble) {byte : UInt8} {value : Nat}
    (computed : byte.toNat = value) : (m.setRegister x byte).console = c.next.set x value := by
  rw [console_setRegister, ahead.view, computed]

theorem skipIf (ahead : m.Ahead c) {condition condition' : Bool} (same : condition = condition') :
    (m.skipIf condition).console = c.skip condition' := by
  rw [console_skipIf ahead.wellFormed, ahead.view, same]
  rfl

theorem jumpTo (ahead : m.Ahead c) {address : Int} {target : Nat} (same : address.toNat = target) :
    (m.jumpTo address).console = { c with pc := target } := by
  rw [console_jumpTo, ahead.view, same]
  rfl

theorem setIndex (ahead : m.Ahead c) {value : Int} {index : Nat} (same : value.toNat = index) :
    (m.setIndex value).console = { c.next with i := index } := by
  rw [console_setIndex, ahead.view, same]

theorem offset (ahead : m.Ahead c) (target : Address) :
    ((((m.register 0).toNat : Int) + target.val) % 4096).toNat = (c.v 0 + target) % 4096 := by
  rw [← ahead.register]
  omega

theorem addByte (ahead : m.Ahead c) (word : Opcode) :
    (m.register word.x + word.byte).toNat = (c.v word.x + (16 * word.y + word.n)) % 256 := by
  rw [UInt8.toNat_add, ahead.register, word.toNat_byte]

theorem random (ahead : m.Ahead c) (word : Opcode) :
    ({ m with noise := m.noise.rest }.setRegister word.x (m.noise.next &&& word.byte)).console =
      { c.next.set word.x (c.noise.next.toNat &&& (16 * word.y + word.n)) with
        noise := c.noise.rest } := by
  have noise : m.noise = c.noise := congrArg Console.noise ahead.view
  rw [console_setRegister, UInt8.toNat_and, word.toNat_byte, noise]
  exact congrArg (fun c' : Console => { c'.set word.x _ with noise := c.noise.rest }) ahead.view

theorem drawSprite (ahead : m.Ahead c) (x y rows : Nibble) :
    (m.drawSprite x y rows).console = c.next.draw x y rows := by
  rw [console_drawSprite ahead.wellFormed, ahead.view]

theorem combineLogic (ahead : m.Ahead c) (x y : Nibble) {f : UInt8 → UInt8 → UInt8} {value : Nat}
    (computed : (f (m.register x) (m.register y)).toNat = value) :
    (m.combineLogic x y f).console = c.logic m.settings.dialect x value := by
  rw [console_combineLogic, ahead.view, computed]
  rfl

theorem setRegisterFlag (ahead : m.Ahead c) (x : Nibble) {byte : UInt8} {bit : Bool}
    {value flag : Nat}
    (computed : byte.toNat = value) (flagged : (if bit then 1 else 0) = flag) :
    ((m.setRegister x byte).setFlag bit).console = (c.next.set x value).setFlag flag := by
  rw [console_setFlag, ahead.setRegister x computed, flagged]

theorem combineFlag (ahead : m.Ahead c) (x y : Nibble) {f : UInt8 → UInt8 → UInt8}
    {flag : UInt8 → UInt8 → Bool} {value : Nat} {condition : Prop} [Decidable condition]
    (computed : (f (m.register x) (m.register y)).toNat = value)
    (flagged : flag (m.register x) (m.register y) = true ↔ condition) :
    (m.combineFlag x y f flag).console =
      (c.next.set x value).setFlag (if condition then 1 else 0) := by
  -- The flag is written last, so it also wins where it is an operand or the target.
  exact ahead.setRegisterFlag x computed (if_congr flagged rfl rfl)

theorem shiftOperand (ahead : m.Ahead c) (x y : Nibble) :
    (m.shiftOperand x y).toNat = c.shifted m.settings.dialect x y :=
  ahead.register _

theorem register_eq_byte (ahead : m.Ahead c) (word : Opcode) :
    (m.register word.x == word.byte) = (c.v word.x == 16 * word.y + word.n) := by
  rw [Bool.eq_iff_iff, beq_iff_eq, beq_iff_eq, ← UInt8.toNat_inj, ahead.register, word.toNat_byte]

theorem register_eq_register (ahead : m.Ahead c) (x y : Nibble) :
    (m.register x == m.register y) = (c.v x == c.v y) := by
  rw [Bool.eq_iff_iff, beq_iff_eq, beq_iff_eq, ← UInt8.toNat_inj, ahead.register, ahead.register]

end Ahead

variable {m : Machine} {c : Console}

theorem outcome_unmapped (ahead : m.Ahead c) {word : Opcode} (rowless : word.row = none) :
    outcome (execute (.unmapped word)) m = c.run m.settings.dialect word := by
  change outcome passUnmapped m = _
  unfold Console.run outcome passUnmapped
  rw [rowless]
  cases m.settings.dialect.strict
  · exact congrArg some ahead.view
  · rfl

theorem outcome_skipIfEqual (ahead : m.Ahead c) (x y n : Nibble) :
    outcome (execute (Instruction.decode ⟨5, x, y, n⟩)) m =
      c.run m.settings.dialect ⟨5, x, y, n⟩ := by
  fin_cases n
  · exact congrArg some (ahead.skipIf (ahead.register_eq_register x y))
  all_goals exact outcome_unmapped ahead rfl

theorem outcome_skipIfDifferent (ahead : m.Ahead c) (x y n : Nibble) :
    outcome (execute (Instruction.decode ⟨9, x, y, n⟩)) m =
      c.run m.settings.dialect ⟨9, x, y, n⟩ := by
  fin_cases n
  · exact congrArg some (ahead.skipIf (congrArg (! ·) (ahead.register_eq_register x y)))
  all_goals exact outcome_unmapped ahead rfl

theorem outcome_arithmetic (ahead : m.Ahead c) (x y n : Nibble) :
    outcome (execute (Instruction.decode ⟨8, x, y, n⟩)) m =
      c.run m.settings.dialect ⟨8, x, y, n⟩ := by
  have vx := ahead.register x
  have vy := ahead.register y
  have operand := ahead.shiftOperand x y
  fin_cases n
  · exact congrArg some (ahead.setRegister x vy)
  · refine congrArg some (ahead.combineLogic x y ?_)
    rw [UInt8.toNat_or, vx, vy]
  · refine congrArg some (ahead.combineLogic x y ?_)
    rw [UInt8.toNat_and, vx, vy]
  · refine congrArg some (ahead.combineLogic x y ?_)
    rw [UInt8.toNat_xor, vx, vy]
  · refine congrArg some (ahead.combineFlag x y ?_ ?_)
    · rw [UInt8.toNat_add, vx, vy]
    · rw [decide_eq_true_eq, vx, vy]
  · refine congrArg some (ahead.combineFlag x y ?_ ?_)
    · rw [toNat_difference, vx, vy]
    · rw [decide_eq_true_eq, gt_iff_lt, UInt8.lt_iff_toNat_lt, vx, vy]
  · refine congrArg some (ahead.setRegisterFlag x ?_ ?_)
    · rw [toNat_halved, operand]
    · rw [toNat_lsb, operand]
  · refine congrArg some (ahead.combineFlag x y ?_ ?_)
    · rw [toNat_difference, vx, vy]
    · rw [decide_eq_true_eq, gt_iff_lt, UInt8.lt_iff_toNat_lt, vx, vy]
  case «14» =>
    refine congrArg some (ahead.setRegisterFlag x ?_ ?_)
    · rw [toNat_doubled, operand]
    · rw [toNat_msb, operand]
  all_goals exact outcome_unmapped ahead rfl

theorem outcome_key (ahead : m.Ahead c) (x y n : Nibble) :
    outcome (execute (Instruction.decode ⟨0xE, x, y, n⟩)) m =
      c.run m.settings.dialect ⟨0xE, x, y, n⟩ := by
  have key : m.keyDown x = c.down (Fin.ofNat 16 (c.v x)) := by
    rw [keyDown_eq, ahead.view]
    rfl
  rw [Instruction.decode_key]
  unfold Instruction.decodeKey
  split
  next byte =>
    obtain ⟨rfl, rfl⟩ := Opcode.digits_eq (a := 0x9) (b := 0xE) byte
    exact congrArg some (ahead.skipIf key)
  next byte =>
    obtain ⟨rfl, rfl⟩ := Opcode.digits_eq (a := 0xA) (b := 0x1) byte
    exact congrArg some (ahead.skipIf (congrArg (! ·) key))
  next _ pressed released =>
    exact outcome_unmapped ahead (Opcode.row_key pressed released)

theorem outcome_clear (ahead : m.Ahead c) :
    outcome (execute .clear) m = some { c.next with pixel := fun _ _ => 0 } := by
  refine congrArg some ?_
  rw [← ahead.view]
  apply Console.ext
  case pixel =>
    funext column line
    simp [console, Screen.pixel, Screen.dark, Bank.zeros, Array.getD]
  all_goals rfl

theorem outcome_ret (ahead : m.Ahead c) :
    outcome (execute .ret) m =
      c.stack.getLast?.map fun address => { c with stack := c.stack.dropLast, pc := address } := by
  have stack : m.stack.toList.map Int.toNat = c.stack := congrArg Console.stack ahead.view
  change outcome returnBack m = _
  unfold outcome returnBack
  cases popped : m.stack.pop with
  | error fault =>
    have empty := (CallStack.pop_eq_error_iff.1 popped).1
    rw [← stack, empty]
    rfl
  | ok top =>
    obtain ⟨address, rest⟩ := top
    have items := CallStack.toList_pop popped
    rw [← stack, items, List.map_append, List.map_singleton, List.getLast?_concat,
      List.dropLast_concat]
    change some { m.console with
      stack := rest.toList.map Int.toNat
      pc := address.toNat } = _
    rw [ahead.view]
    rfl

theorem outcome_call (ahead : m.Ahead c) (target : Address) :
    outcome (execute (.call target)) m =
      if c.stack.length < 16 then
        some { c with stack := c.stack ++ [(c.pc + 2) % 4096], pc := target }
      else none := by
  have stack : m.stack.toList.map Int.toNat = c.stack := congrArg Console.stack ahead.view
  have pc : m.processor.pc.toNat = (c.pc + 2) % 4096 := congrArg Console.pc ahead.view
  have limit := ahead.wellFormed.stack.limit
  have depth : c.stack.length = m.stack.depth := by
    rw [← stack, List.length_map, CallStack.length_toList]
  change outcome (callTo target) m = _
  unfold outcome callTo
  cases pushed : m.stack.push m.processor.pc with
  | error fault =>
    have full := (CallStack.push_eq_error_iff.1 pushed).1
    rw [if_neg (by omega)]
  | ok next =>
    have free : ¬ m.stack.limit ≤ m.stack.depth := by
      intro full
      rw [CallStack.push_eq_error_iff.2 ⟨full, rfl⟩] at pushed
      cases pushed
    have items := CallStack.toList_push pushed
    rw [if_pos (by omega), ← stack, ← pc]
    change some { m.console with
      stack := next.toList.map Int.toNat
      pc := (target.val : Int).toNat } = _
    rw [ahead.view, items, List.map_append, List.map_singleton]
    rfl

theorem outcome_system (ahead : m.Ahead c) (x y n : Nibble) :
    outcome (execute (Instruction.decodeSystem ⟨0, x, y, n⟩)) m =
      c.run m.settings.dialect ⟨0, x, y, n⟩ := by
  have whole : (⟨0, x, y, n⟩ : Opcode).address.val = 256 * x.val + (16 * y.val + n.val) := by
    rw [Opcode.address_val]
    dsimp only
    omega
  unfold Instruction.decodeSystem
  rw [whole]
  split
  next address =>
    have lower : 16 * y.val + n.val = 0xE0 := by omega
    obtain rfl : x = 0x0 := Fin.ext (by omega)
    obtain ⟨rfl, rfl⟩ := Opcode.digits_eq (a := 0xE) (b := 0x0) lower
    exact outcome_clear ahead
  next notClear =>
    split
    next address =>
      have lower : 16 * y.val + n.val = 0xEE := by omega
      obtain rfl : x = 0x0 := Fin.ext (by omega)
      obtain ⟨rfl, rfl⟩ := Opcode.digits_eq (a := 0xE) (b := 0xE) lower
      exact outcome_ret ahead
    next notRet =>
      unfold Console.run
      rw [Opcode.row_system notClear notRet]
      exact congrArg some ahead.view

theorem outcome_stores (ahead : m.Ahead c) (bytes : List UInt8) {count : Nat} {values : Nat → Nat}
    (fits : bytes.length ≤ 4096) (length : bytes.length = count)
    (stored : ∀ k, k < count → (bytes.getD k 0).toNat = values k) :
    outcome (storeAtIndex bytes) m = c.next.store count values := by
  rw [outcome_storeAtIndex ahead.wellFormed bytes fits, ahead.view, length]
  unfold Console.store
  split
  · refine congrArg some (congrArg (fun memory => { c.next with memory }) ?_)
    funext address
    cases found : (List.range count).find? fun k => (c.next.i + k) % 4096 == address.val with
    | none => rfl
    | some k => exact stored k (List.mem_range.1 (List.mem_of_find?_eq_some found))
  · rfl

theorem outcome_storeDecimal (ahead : m.Ahead c) (x : Nibble) :
    outcome (execute (.storeDecimal x)) m = c.next.store 3 fun k =>
      if k = 0 then c.v x / 100 else if k = 1 then c.v x / 10 % 10 else c.v x % 10 := by
  have vx := ahead.register x
  change outcome (storeAtIndex (decimalDigits (m.register x))) m = _
  refine outcome_stores ahead _ (by simp [decimalDigits]) rfl ?_
  intro k hk
  rcases k with _ | _ | _ | k
  · simp [decimalDigits, vx]
  · simp [decimalDigits, vx]
  · simp [decimalDigits, vx]
  · omega

theorem outcome_storeRegisters (ahead : m.Ahead c) (x : Nibble) :
    outcome (execute (.storeRegisters x)) m =
      (c.next.store (x + 1) fun k => c.v (Fin.ofNat 16 k)).map
        (·.moveIndex m.settings.dialect (x + 1)) := by
  have length := m.length_registersUpTo x
  rw [← outcome_stores ahead (m.registersUpTo x) (by omega) length]
  · unfold outcome
    rw [execute_storeRegisters, storeAtIndex_eq]
    cases (m.memory.storeAll m.processor.i (m.registersUpTo x)).2 with
    | none => exact congrArg some (console_indexMoved (ahead.wellFormed.memory _) x)
    | some fault => rfl
  · intro k hk
    have inside : k < (m.registersUpTo x).length := by omega
    have small : k % 16 = k := by omega
    rw [← ahead.register, List.getD_eq_getElem _ _ inside]
    simp [registersUpTo, register, Bank.get_eq, small]

theorem outcome_miscellaneous (ahead : m.Ahead c) (x y n : Nibble) :
    outcome (execute (Instruction.decode ⟨0xF, x, y, n⟩)) m =
      c.run m.settings.dialect ⟨0xF, x, y, n⟩ := by
  have vx := ahead.register x
  have index : m.processor.i.toNat = c.i := congrArg Console.i ahead.view
  have range := ahead.wellFormed.index
  rw [Instruction.decode_miscellaneous]
  unfold Instruction.decodeMiscellaneous
  split
  next byte =>
    obtain ⟨rfl, rfl⟩ := Opcode.digits_eq (a := 0x0) (b := 0x7) byte
    exact congrArg some (ahead.setRegister x (congrArg Console.delay ahead.view))
  next byte =>
    obtain ⟨rfl, rfl⟩ := Opcode.digits_eq (a := 0x0) (b := 0xA) byte
    exact congrArg some (console_beginWait ahead.wellFormed x ahead.view ahead.pc ahead.running)
  next byte =>
    obtain ⟨rfl, rfl⟩ := Opcode.digits_eq (a := 0x1) (b := 0x5) byte
    change some { m.console with delay := (lowByte (m.register x).toNat).toNat } = _
    rw [toNat_lowByte_toNat, vx, ahead.view]
    rfl
  next byte =>
    obtain ⟨rfl, rfl⟩ := Opcode.digits_eq (a := 0x1) (b := 0x8) byte
    change some { m.console with sound := (lowByte (m.register x).toNat).toNat } = _
    rw [toNat_lowByte_toNat, vx, ahead.view]
    rfl
  next byte =>
    obtain ⟨rfl, rfl⟩ := Opcode.digits_eq (a := 0x1) (b := 0xE) byte
    have moved : ((m.processor.i + ((m.register x).toNat : Nat)) % 65536).toNat =
        (c.i + c.v x) % 65536 := by omega
    change some { m.console with i := ((m.processor.i + (m.register x).toNat) % 65536).toNat } = _
    rw [moved, ahead.view]
    rfl
  next byte =>
    obtain ⟨rfl, rfl⟩ := Opcode.digits_eq (a := 0x2) (b := 0x9) byte
    have glyph : ((Memory.glyphSize : Int) * (m.register x).toNat).toNat = c.v x * 5 := by
      unfold Memory.glyphSize
      omega
    change some { m.console with
      i := ((Memory.glyphSize : Int) * (m.register x).toNat).toNat } = _
    rw [glyph, ahead.view]
    rfl
  next byte =>
    obtain ⟨rfl, rfl⟩ := Opcode.digits_eq (a := 0x3) (b := 0x3) byte
    exact outcome_storeDecimal ahead x
  next byte =>
    obtain ⟨rfl, rfl⟩ := Opcode.digits_eq (a := 0x5) (b := 0x5) byte
    exact outcome_storeRegisters ahead x
  next byte =>
    obtain ⟨rfl, rfl⟩ := Opcode.digits_eq (a := 0x6) (b := 0x5) byte
    have loaded : (m.loadUpTo x).WellFormed := ahead.wellFormed.registers _
    refine congrArg some ((console_indexMoved loaded x).trans ?_)
    rw [console_loadUpTo ahead.wellFormed, ahead.view]
    rfl
  case h_10 =>
    apply outcome_unmapped ahead
    apply Opcode.row_miscellaneous
    simp_all

end Machine

end Chip8
