import Chip8.Proofs.Table.Refinement

namespace Chip8

/-- Results of the same kind and value that leave related states. -/
inductive Alike {ε σ σ' α : Type} (F : ε → ε → Prop) (R : σ → σ' → Prop) :
    EStateM.Result ε σ α → EStateM.Result ε σ' α → Prop where
  | ok {s : σ} {s' : σ'} (value : α) (related : R s s') : Alike F R (.ok value s) (.ok value s')
  | error {s : σ} {s' : σ'} {fault fault' : ε} (faults : F fault fault') (related : R s s') :
      Alike F R (.error fault s) (.error fault' s')

def Lockstep {ε σ σ' α : Type} (F : ε → ε → Prop) (R : σ → σ' → Prop) (action : EStateM ε σ α)
    (action' : EStateM ε σ' α) : Prop :=
  ∀ s s', R s s' → Alike F R (action s) (action' s')

section

variable {ε σ σ' α β : Type} {F : ε → ε → Prop} {R : σ → σ' → Prop}
variable {action : EStateM ε σ α} {action' : EStateM ε σ' α}
variable {next : α → EStateM ε σ β} {next' : α → EStateM ε σ' β} {s : σ} {s' : σ'}

theorem Alike.stateAfter (alike : Alike F R (action s) (action' s')) :
    R (stateAfter action s) (Chip8.stateAfter action' s') := by
  unfold Chip8.stateAfter
  generalize action s = r at alike ⊢
  generalize action' s' = r' at alike ⊢
  cases alike with
  | ok value related => exact related
  | error faults related => exact related

theorem Alike.bind (first : Alike F R (action s) (action' s'))
    (rest : ∀ value, Lockstep F R (next value) (next' value)) :
    Alike F R ((action >>= next) s) ((action' >>= next') s') := by
  change Alike F R (EStateM.bind action next s) (EStateM.bind action' next' s')
  unfold EStateM.bind
  generalize action s = r at first
  generalize action' s' = r' at first
  cases first with
  | ok value related => exact rest value _ _ related
  | error faults related => exact .error faults related

theorem Lockstep.bind (first : Lockstep F R action action')
    (rest : ∀ value, Lockstep F R (next value) (next' value)) :
    Lockstep F R (action >>= next) (action' >>= next') :=
  fun s s' related => (first s s' related).bind rest

theorem Lockstep.pure (value : α) :
    Lockstep F R (pure value : EStateM ε σ α) (pure value : EStateM ε σ' α) :=
  fun _ _ related => .ok value related

end

/-- The same fault, but for the text of the report of an unmapped word. -/
inductive Fault.Akin (T : String → String → Prop) : Fault → Fault → Prop where
  | same (fault : Fault) : Akin T fault fault
  | unmapped {report report' : String} (reports : T report report') :
      Akin T (.unmappedOpcode report) (.unmappedOpcode report')

namespace Machine

variable {F : Fault → Fault → Prop} {R : Machine → Machine → Prop} {m m' : Machine}

/-- What related machines share. Their index registers may differ above the bits that address
memory. -/
structure Shared (R : Machine → Machine → Prop) : Prop where
  v : ∀ {m m'}, R m m' → m'.processor.v = m.processor.v
  pc : ∀ {m m'}, R m m' → m'.processor.pc = m.processor.pc
  index : ∀ {m m'}, R m m' → m'.processor.i % 4096 = m.processor.i % 4096
  keyRegister : ∀ {m m'}, R m m' → m'.processor.keyRegister = m.processor.keyRegister
  memory : ∀ {m m'}, R m m' → m'.memory = m.memory
  stack : ∀ {m m'}, R m m' → m'.stack = m.stack
  screen : ∀ {m m'}, R m m' → m'.screen = m.screen

structure InstructionLockstep (F : Fault → Fault → Prop) (R : Machine → Machine → Prop) : Prop
    extends Shared R where
  fault : ∀ fault, F fault fault
  report : ∀ {m m'}, R m m' → ∀ reason,
    F (.unmappedOpcode (m.crashReport reason)) (.unmappedOpcode (m'.crashReport reason))
  registers : ∀ {m m'}, R m m' → ∀ v, R { m with processor.v := v } { m' with processor.v := v }
  jump : ∀ {m m'}, R m m' → ∀ address, R (m.jumpTo address) (m'.jumpTo address)
  setIndex : ∀ {m m'}, R m m' → ∀ i, R (m.setIndex i) (m'.setIndex i)
  moveIndex : ∀ {m m'}, R m m' → ∀ offset,
    R (m.setIndex ((m.processor.i + offset) % 65536))
      (m'.setIndex ((m'.processor.i + offset) % 65536))
  await : ∀ {m m'}, R m m' → ∀ x,
    R { m with processor.keyRegister := x, processor.phase := .awaitingKey }
      { m' with processor.keyRegister := x, processor.phase := .awaitingKey }
  resume : ∀ {m m'}, R m m' →
    R { m with processor.phase := .running } { m' with processor.phase := .running }
  picture : ∀ {m m'}, R m m' → ∀ screen, R { m with screen } { m' with screen }
  setDelay : ∀ {m m'}, R m m' → ∀ value,
    R { m with timers := m.timers.setDelay value } { m' with timers := m'.timers.setDelay value }
  setSound : ∀ {m m'}, R m m' → ∀ value,
    R { m with timers := m.timers.setSound value } { m' with timers := m'.timers.setSound value }
  noise : ∀ {m m'}, R m m' → R { m with noise := m.noise.rest } { m' with noise := m'.noise.rest }
  store : ∀ {m m'}, R m m' → ∀ memory, R { m with memory } { m' with memory }
  stacked : ∀ {m m'}, R m m' → ∀ stack, R { m with stack } { m' with stack }

/-- Two machines find the same in the settings, the keypad, the timers and the noise, as far as an
instruction looks there. -/
def Consults (m m' : Machine) : Instruction → Prop
  | .or _ _ | .and _ _ | .xor _ _ =>
    m'.settings.dialect.clearsFlag = m.settings.dialect.clearsFlag
  | .shiftRight x y | .shiftLeft x y => m'.shiftOperand x y = m.shiftOperand x y
  | .storeRegisters _ | .loadRegisters _ =>
    m'.settings.dialect.movesIndex = m.settings.dialect.movesIndex
  | .random _ _ => m'.noise.next = m.noise.next
  | .skipIfKey x | .skipUnlessKey x => m'.keyDown x = m.keyDown x
  | .awaitKey _ => m'.keypad.latch.firstDown = m.keypad.latch.firstDown
  | .readDelay _ => m'.timers.delay = m.timers.delay
  | .unmapped _ => m'.settings.dialect.strict = m.settings.dialect.strict
  | _ => True

namespace Shared

theorem register (shared : Shared R) (h : R m m') (x : Nibble) : m'.register x = m.register x :=
  congrArg (Vector.get · x) (shared.v h)

theorem byte (shared : Shared R) (h : R m m') (k : Int) :
    m'.memory.byte (m'.processor.i + k) = m.memory.byte (m.processor.i + k) := by
  have index := shared.index h
  rw [shared.memory h]
  exact Memory.byte_congr m.memory (by omega)

theorem spriteRows (shared : Shared R) (h : R m m') (rows : Nibble) :
    m'.spriteRows rows = m.spriteRows rows := by
  unfold Machine.spriteRows
  refine List.map_congr_left fun row _ => ?_
  rw [shared.byte h]

theorem storeAll (shared : Shared R) (h : R m m') (bytes : List UInt8) :
    m'.memory.storeAll m'.processor.i bytes = m.memory.storeAll m.processor.i bytes := by
  rw [shared.memory h]
  exact Memory.storeAll_congr m.memory (shared.index h) bytes

theorem registersUpTo (shared : Shared R) (h : R m m') (x : Nibble) :
    m'.registersUpTo x = m.registersUpTo x := by
  unfold Machine.registersUpTo
  rw [shared.v h]

end Shared

namespace InstructionLockstep

theorem setRegister (inv : InstructionLockstep F R) (h : R m m') (x : Nibble) {a b : UInt8}
    (same : b = a) : R (m.setRegister x a) (m'.setRegister x b) := by
  subst same
  unfold Machine.setRegister
  rw [inv.v h]
  exact inv.registers h _

theorem setFlag (inv : InstructionLockstep F R) (h : R m m') (flag : Bool) :
    R (m.setFlag flag) (m'.setFlag flag) :=
  inv.setRegister h _ rfl

theorem advance (inv : InstructionLockstep F R) (h : R m m') : R m.advance m'.advance := by
  unfold Machine.advance
  rw [inv.pc h]
  exact inv.jump h _

theorem retreat (inv : InstructionLockstep F R) (h : R m m') : R m.retreat m'.retreat := by
  unfold Machine.retreat
  rw [inv.pc h]
  exact inv.jump h _

theorem skipIf (inv : InstructionLockstep F R) (h : R m m') {a b : Bool} (same : b = a) :
    R (m.skipIf a) (m'.skipIf b) := by
  subst same
  unfold Machine.skipIf
  cases b
  · exact h
  · exact inv.advance h

theorem combine (inv : InstructionLockstep F R) (h : R m m') (x y : Nibble)
    (f : UInt8 → UInt8 → UInt8) : R (m.combine x y f) (m'.combine x y f) := by
  refine inv.setRegister h x ?_
  rw [inv.register h, inv.register h]

theorem combineFlag (inv : InstructionLockstep F R) (h : R m m') (x y : Nibble)
    (f : UInt8 → UInt8 → UInt8) (flag : UInt8 → UInt8 → Bool) :
    R (m.combineFlag x y f flag) (m'.combineFlag x y f flag) := by
  unfold Machine.combineFlag
  rw [inv.register h, inv.register h]
  exact inv.setFlag (inv.combine h x y f) _

theorem combineLogic (inv : InstructionLockstep F R) (h : R m m')
    (same : m'.settings.dialect.clearsFlag = m.settings.dialect.clearsFlag) (x y : Nibble)
    (f : UInt8 → UInt8 → UInt8) : R (m.combineLogic x y f) (m'.combineLogic x y f) := by
  unfold Machine.combineLogic
  rw [same]
  dsimp only
  split
  · exact inv.setRegister (inv.combine h x y f) _ rfl
  · exact inv.combine h x y f

theorem shift (inv : InstructionLockstep F R) (h : R m m') {x y : Nibble}
    (same : m'.shiftOperand x y = m.shiftOperand x y) (f : UInt8 → UInt8) (flag : UInt8 → Bool) :
    R ((m.setRegister x (f (m.shiftOperand x y))).setFlag (flag (m.shiftOperand x y)))
      ((m'.setRegister x (f (m'.shiftOperand x y))).setFlag (flag (m'.shiftOperand x y))) := by
  rw [same]
  exact inv.setFlag (inv.setRegister h x rfl) _

theorem indexMoved (inv : InstructionLockstep F R) (h : R m m')
    (same : m'.settings.dialect.movesIndex = m.settings.dialect.movesIndex) (x : Nibble) :
    R (m.indexMoved x) (m'.indexMoved x) := by
  unfold Machine.indexMoved
  rw [same, Int.add_assoc, Int.add_assoc]
  split
  · exact inv.moveIndex h _
  · exact h

theorem drawSprite (inv : InstructionLockstep F R) (h : R m m') (x y rows : Nibble) :
    R (m.drawSprite x y rows) (m'.drawSprite x y rows) := by
  unfold Machine.drawSprite
  rw [inv.screen h, inv.register h, inv.register h, inv.spriteRows h]
  exact inv.setFlag (inv.picture h _) _

theorem loadUpTo (inv : InstructionLockstep F R) (h : R m m') (x : Nibble) :
    R (m.loadUpTo x) (m'.loadUpTo x) := by
  unfold Machine.loadUpTo
  simp only [inv.v h, inv.byte h]
  exact inv.registers h _

theorem poll (inv : InstructionLockstep F R) (h : R m m')
    (same : m'.keypad.latch.firstDown = m.keypad.latch.firstDown) : R m.poll m'.poll := by
  unfold Machine.poll
  rw [same]
  cases m.keypad.latch.firstDown with
  | none => exact h
  | some key =>
    dsimp only
    rw [inv.keyRegister h]
    exact inv.resume (inv.advance (inv.setRegister h _ rfl))

theorem callTo (inv : InstructionLockstep F R) (h : R m m') (target : Address) :
    Alike F R (Machine.callTo target m) (Machine.callTo target m') := by
  unfold Machine.callTo
  rw [inv.stack h, inv.pc h]
  cases m.stack.push m.processor.pc with
  | error fault => exact .error (inv.fault fault) h
  | ok stack => exact .ok () (inv.jump (inv.stacked h stack) _)

theorem returnBack (inv : InstructionLockstep F R) (h : R m m') :
    Alike F R (Machine.returnBack m) (Machine.returnBack m') := by
  unfold Machine.returnBack
  rw [inv.stack h]
  cases m.stack.pop with
  | error fault => exact .error (inv.fault fault) h
  | ok top => exact .ok () (inv.jump (inv.stacked h _) _)

theorem storeAtIndex (inv : InstructionLockstep F R) (h : R m m') (bytes : List UInt8) :
    Alike F R (Machine.storeAtIndex bytes m) (Machine.storeAtIndex bytes m') := by
  rw [storeAtIndex_eq, storeAtIndex_eq, inv.storeAll h]
  cases (m.memory.storeAll m.processor.i bytes).2 with
  | none => exact .ok () (inv.store h _)
  | some fault => exact .error (inv.fault fault) (inv.store h _)

theorem storeRegisters (inv : InstructionLockstep F R) (h : R m m')
    (same : m'.settings.dialect.movesIndex = m.settings.dialect.movesIndex) (x : Nibble) :
    Alike F R (Machine.execute (.storeRegisters x) m) (Machine.execute (.storeRegisters x) m') := by
  rw [execute_storeRegisters, execute_storeRegisters, inv.registersUpTo h, inv.storeAll h]
  cases (m.memory.storeAll m.processor.i (m.registersUpTo x)).2 with
  | none =>
    have stored := inv.store h (m.memory.storeAll m.processor.i (m.registersUpTo x)).1
    exact .ok () (inv.indexMoved stored same x)
  | some fault => exact .error (inv.fault fault) (inv.store h _)

theorem passUnmapped (inv : InstructionLockstep F R) (h : R m m')
    (same : m'.settings.dialect.strict = m.settings.dialect.strict) :
    Alike F R (Machine.passUnmapped m) (Machine.passUnmapped m') := by
  unfold Machine.passUnmapped
  rw [same]
  cases m.settings.dialect.strict
  · exact .ok () h
  · exact .error (inv.report h _) h

theorem execute (inv : InstructionLockstep F R) (h : R m m') {instruction : Instruction}
    (same : Consults m m' instruction) :
    Alike F R (Machine.execute instruction m) (Machine.execute instruction m') := by
  have reads := inv.register h
  cases instruction with
  | sys => exact .ok () h
  | clear => exact .ok () (inv.picture h _)
  | ret => exact inv.returnBack h
  | jump => exact .ok () (inv.jump h _)
  | call => exact inv.callTo h _
  | skipIfByte | skipUnlessByte => exact .ok () (inv.skipIf h (by rw [reads]))
  | skipIfEqual | skipIfDifferent => exact .ok () (inv.skipIf h (by rw [reads, reads]))
  | skipIfKey | skipUnlessKey => exact .ok () (inv.skipIf h (by rw [same]))
  | loadByte => exact .ok () (inv.setRegister h _ rfl)
  | addByte | copy => exact .ok () (inv.setRegister h _ (by rw [reads]))
  | readDelay => exact .ok () (inv.setRegister h _ same)
  | or | and | xor => exact .ok () (inv.combineLogic h same _ _ _)
  | add | sub | subReverse => exact .ok () (inv.combineFlag h _ _ _ _)
  | shiftRight => exact .ok () (inv.shift h same (· >>> 1) fun value => value.toNat.testBit 0)
  | shiftLeft => exact .ok () (inv.shift h same (· <<< 1) fun value => value.toNat.testBit 7)
  | loadIndex => exact .ok () (inv.setIndex h _)
  | addIndex x =>
    have moved : R (m.setIndex ((m.processor.i + (m.register x).toNat) % 65536))
        (m'.setIndex ((m'.processor.i + (m'.register x).toNat) % 65536)) := by
      rw [reads]
      exact inv.moveIndex h _
    exact .ok () moved
  | loadGlyph x =>
    have pointed : R (m.setIndex (Memory.glyphSize * (m.register x).toNat))
        (m'.setIndex (Memory.glyphSize * (m'.register x).toNat)) := by
      rw [reads]
      exact inv.setIndex h _
    exact .ok () pointed
  | jumpOffset target =>
    have jumped : R (m.jumpTo ((((m.register 0).toNat : Int) + target.val) % 4096))
        (m'.jumpTo ((((m'.register 0).toNat : Int) + target.val) % 4096)) := by
      rw [reads]
      exact inv.jump h _
    exact .ok () jumped
  | random x mask =>
    have drawn : m'.noise.next = m.noise.next := same
    exact .ok () (inv.setRegister (inv.noise h) x (by rw [drawn]))
  | draw => exact .ok () (inv.drawSprite h _ _ _)
  | awaitKey x =>
    exact .ok () (inv.poll (inv.await (inv.retreat h) x) same)
  | setDelay x =>
    have set : R { m with timers := m.timers.setDelay (m.register x).toNat }
        { m' with timers := m'.timers.setDelay (m'.register x).toNat } := by
      rw [reads]
      exact inv.setDelay h _
    exact .ok () set
  | setSound x =>
    have set : R { m with timers := m.timers.setSound (m.register x).toNat }
        { m' with timers := m'.timers.setSound (m'.register x).toNat } := by
      rw [reads]
      exact inv.setSound h _
    exact .ok () set
  | storeDecimal x =>
    change Alike F R (Machine.storeAtIndex (decimalDigits (m.register x)) m)
      (Machine.storeAtIndex (decimalDigits (m'.register x)) m')
    rw [reads]
    exact inv.storeAtIndex h _
  | storeRegisters x => exact inv.storeRegisters h same x
  | loadRegisters x => exact .ok () (inv.indexMoved (inv.loadUpTo h x) same x)
  | unmapped => exact inv.passUnmapped h same

end InstructionLockstep

structure StepLockstep (F : Fault → Fault → Prop) (R : Machine → Machine → Prop) : Prop
    extends InstructionLockstep F R where
  phase : ∀ {m m'}, R m m' → m'.processor.phase = m.processor.phase
  prepare : ∀ {m m'}, R m m' → R m.prepared m'.prepared

def StepConsults (m m' : Machine) : Prop :=
  match m.processor.phase with
  | .awaitingKey => m'.keypad.latch.firstDown = m.keypad.latch.firstDown
  | .running => Consults m m' (Instruction.decode (m.memory.word m.processor.pc))

theorem consults_prepared {instruction : Instruction} (same : Consults m m' instruction) :
    Consults m.prepared m'.prepared instruction := by
  cases instruction <;> exact same

theorem StepLockstep.step (inv : StepLockstep F R) (h : R m m') (same : StepConsults m m') :
    Alike F R (Machine.step m) (Machine.step m') := by
  have phase := inv.phase h
  unfold StepConsults at same
  cases here : m.processor.phase with
  | awaitingKey =>
    rw [here] at same phase
    rw [step_of_awaiting here, step_of_awaiting phase]
    exact .ok () (inv.poll h same)
  | running =>
    rw [here] at same phase
    have word : m'.memory.word m'.processor.pc = m.memory.word m.processor.pc := by
      rw [inv.memory h, inv.pc h]
    have ready : R m.prepared m'.prepared := inv.prepare h
    rw [step_of_running here, step_of_word phase word]
    exact inv.execute ready (consults_prepared same)

end Machine

end Chip8
