import Chip8.Execution

namespace Chip8

/-- The state an action leaves behind, whether it succeeds or fails. -/
def stateAfter {ε σ α : Type} (action : EStateM ε σ α) (s : σ) : σ :=
  match action s with
  | .ok _ next => next
  | .error _ next => next

theorem stateAfter_modify {ε σ : Type} (f : σ → σ) (s : σ) :
    stateAfter (modify f : EStateM ε σ Unit) s = f s := rfl

theorem stateAfter_of_ok {ε σ α : Type} {action : EStateM ε σ α} {s next : σ} {a : α}
    (done : action s = .ok a next) : stateAfter action s = next := by
  unfold stateAfter
  rw [done]

theorem stateAfter_of_error {ε σ α : Type} {action : EStateM ε σ α} {s next : σ} {fault : ε}
    (failed : action s = .error fault next) : stateAfter action s = next := by
  unfold stateAfter
  rw [failed]

def Instruction.plain : Instruction → Bool
  | .call _ | .ret | .awaitKey _ => false
  | _ => true

namespace Machine

theorem length_registersUpTo (m : Machine) (x : Nibble) :
    (m.registersUpTo x).length = x.val + 1 := by
  simp only [registersUpTo, List.length_take, Vector.length_toList]
  omega

theorem storeAtIndex_eq (m : Machine) (bytes : List UInt8) :
    storeAtIndex bytes m =
      match (m.memory.storeAll m.processor.i bytes).2 with
      | none => .ok () { m with memory := (m.memory.storeAll m.processor.i bytes).1 }
      | some fault =>
        .error fault { m with memory := (m.memory.storeAll m.processor.i bytes).1 } := rfl

theorem execute_storeRegisters (m : Machine) (x : Nibble) :
    execute (.storeRegisters x) m =
      match (m.memory.storeAll m.processor.i (m.registersUpTo x)).2 with
      | none => .ok ()
        ({ m with memory := (m.memory.storeAll m.processor.i (m.registersUpTo x)).1 }.indexMoved x)
      | some fault => .error fault
        { m with memory := (m.memory.storeAll m.processor.i (m.registersUpTo x)).1 } := by
  change (storeAtIndex (m.registersUpTo x) >>= fun _ => modify (·.indexMoved x)) m = _
  simp only [bind, EStateM.bind, storeAtIndex_eq]
  cases (m.memory.storeAll m.processor.i (m.registersUpTo x)).2 <;> rfl

/-- A predicate that survives the elementary changes plain instructions are made of. -/
structure PlainInvariant (P : Machine → Prop) : Prop where
  registers : ∀ {m}, P m → ∀ v, P { m with processor.v := v }
  jump : ∀ {m address}, P m → 0 ≤ address → address < 4096 → P (m.jumpTo address)
  index : ∀ {m i}, P m → 0 ≤ i → i < 65536 → P (m.setIndex i)
  darken : ∀ {m}, P m → P { m with screen := Screen.dark 64 32 }
  draw : ∀ {m}, P m → ∀ x y rows, P { m with screen := (m.screen.draw x y rows).1 }
  time : ∀ {m}, P m → ∀ timers, P { m with timers }
  noise : ∀ {m}, P m → P { m with noise := m.noise.rest }
  store : ∀ {m address value memory}, P m →
    m.memory.store address value = .ok memory → P { m with memory }

structure InstructionInvariant (P : Machine → Prop) : Prop extends PlainInvariant P where
  park : ∀ {m}, P m → ∀ keyRegister phase,
    P { m with processor.keyRegister := keyRegister, processor.phase := phase }
  call : ∀ {m stack}, P m → m.stack.push m.processor.pc = .ok stack → P { m with stack }
  ret : ∀ {m address stack}, P m →
    m.stack.pop = .ok (address, stack) → P ({ m with stack }.jumpTo address)

structure StepInvariant (P : Machine → Prop) : Prop extends InstructionInvariant P where
  fetch : ∀ {m}, P m → P m.fetched
  print : ∀ {m}, P m → ∀ printed, P { m with printed }

theorem stateAfter_passUnmapped (m : Machine) : stateAfter passUnmapped m = m := by
  unfold stateAfter passUnmapped
  cases m.settings.dialect.strict <;> rfl

namespace PlainInvariant

variable {P : Machine → Prop} {m : Machine}

theorem setRegister (inv : PlainInvariant P) (h : P m) (x : Nibble) (value : UInt8) :
    P (m.setRegister x value) :=
  inv.registers h _

theorem setFlag (inv : PlainInvariant P) (h : P m) (flag : Bool) : P (m.setFlag flag) :=
  inv.setRegister h _ _

theorem advance (inv : PlainInvariant P) (h : P m) : P m.advance :=
  inv.jump h (by omega) (by omega)

theorem retreat (inv : PlainInvariant P) (h : P m) : P m.retreat :=
  inv.jump h (by omega) (by omega)

theorem skipIf (inv : PlainInvariant P) (h : P m) (condition : Bool) :
    P (m.skipIf condition) := by
  unfold Machine.skipIf
  cases condition
  · exact h
  · exact inv.advance h

theorem combineFlag (inv : PlainInvariant P) (h : P m) (x y : Nibble)
    (f : UInt8 → UInt8 → UInt8) (flag : UInt8 → UInt8 → Bool) : P (m.combineFlag x y f flag) :=
  inv.setFlag (inv.setRegister h _ _) _

theorem combineLogic (inv : PlainInvariant P) (h : P m) (x y : Nibble)
    (f : UInt8 → UInt8 → UInt8) : P (m.combineLogic x y f) := by
  have done : P (m.combine x y f) := inv.setRegister h _ _
  unfold Machine.combineLogic
  dsimp only
  split
  · exact inv.setRegister done _ _
  · exact done

theorem indexMoved (inv : PlainInvariant P) (h : P m) (x : Nibble) : P (m.indexMoved x) := by
  unfold Machine.indexMoved
  split
  · exact inv.index h (by omega) (by omega)
  · exact h

theorem drawSprite (inv : PlainInvariant P) (h : P m) (x y rows : Nibble) :
    P (m.drawSprite x y rows) :=
  inv.setFlag (inv.draw h _ _ _) _

theorem storeAll (inv : PlainInvariant P) (h : P m) (address : Int) (bytes : List UInt8) :
    P { m with memory := (m.memory.storeAll address bytes).1 } := by
  induction bytes generalizing m address with
  | nil => exact h
  | cons value values ih =>
    unfold Memory.storeAll
    cases stored : m.memory.store address value with
    | error fault => exact h
    | ok next => exact ih (inv.store h stored) (address + 1)

theorem storeAtIndex (inv : PlainInvariant P) (h : P m) (bytes : List UInt8) :
    P (stateAfter (Machine.storeAtIndex bytes) m) := by
  have stored := inv.storeAll h m.processor.i bytes
  unfold stateAfter
  rw [storeAtIndex_eq]
  cases fault : (m.memory.storeAll m.processor.i bytes).2 <;> simpa only [fault] using stored

theorem storeRegisters (inv : PlainInvariant P) (h : P m) (x : Nibble) :
    P (stateAfter (Machine.execute (.storeRegisters x)) m) := by
  have stored := inv.storeAll h m.processor.i (m.registersUpTo x)
  unfold stateAfter
  rw [execute_storeRegisters]
  cases fault : (m.memory.storeAll m.processor.i (m.registersUpTo x)).2
  · simpa only [fault] using inv.indexMoved stored x
  · simpa only [fault] using stored

theorem execute (inv : PlainInvariant P) (h : P m) {instruction : Instruction}
    (plain : instruction.plain = true) : P (stateAfter (Machine.execute instruction) m) := by
  cases instruction with
  | sys => exact h
  | clear => exact inv.darken h
  | ret | call | awaitKey => cases plain
  | jump target =>
    have bound := target.isLt
    exact inv.jump h (by omega) (by omega)
  | skipIfByte | skipUnlessByte | skipIfEqual | skipIfDifferent => exact inv.skipIf h _
  | skipIfKey | skipUnlessKey => exact inv.skipIf h _
  | loadByte | addByte | copy | readDelay => exact inv.setRegister h _ _
  | or | and | xor => exact inv.combineLogic h _ _ _
  | add | sub | subReverse =>
    simp only [Machine.execute, stateAfter_modify]
    exact inv.combineFlag h _ _ _ _
  | shiftRight | shiftLeft => exact inv.setFlag (inv.setRegister h _ _) _
  | loadIndex target =>
    have bound := target.isLt
    exact inv.index h (by omega) (by omega)
  | jumpOffset => exact inv.jump h (by omega) (by omega)
  | random => exact inv.setRegister (inv.noise h) _ _
  | draw => exact inv.drawSprite h _ _ _
  | setDelay | setSound => exact inv.time h _
  | addIndex => exact inv.index h (by omega) (by omega)
  | loadGlyph x =>
    have bound := (m.register x).toNat_lt
    refine inv.index h (i := (Memory.glyphSize * (m.register x).toNat : Nat)) (by omega) ?_
    simp only [Memory.glyphSize]
    omega
  | storeDecimal x => exact inv.storeAtIndex h (decimalDigits (m.register x))
  | storeRegisters x => exact inv.storeRegisters h x
  | loadRegisters => exact inv.indexMoved (inv.registers h _) _
  | unmapped =>
    change P (stateAfter Machine.passUnmapped m)
    rw [stateAfter_passUnmapped]
    exact h

end PlainInvariant

namespace InstructionInvariant

variable {P : Machine → Prop} {m : Machine}

theorem poll (inv : InstructionInvariant P) (h : P m) : P m.poll := by
  unfold Machine.poll
  cases m.keypad.latch.firstDown with
  | none => exact h
  | some key => exact inv.park (inv.advance (inv.setRegister h _ _)) _ _

theorem beginWait (inv : InstructionInvariant P) (h : P m) (x : Nibble) : P (m.beginWait x) :=
  inv.poll (inv.park (inv.retreat h) _ _)

theorem callTo (inv : InstructionInvariant P) (h : P m) (target : Address) :
    P (stateAfter (Machine.callTo target) m) := by
  have bound := target.isLt
  unfold stateAfter Machine.callTo
  cases pushed : m.stack.push m.processor.pc with
  | error fault => exact h
  | ok stack => exact inv.jump (inv.call h pushed) (by omega) (by omega)

theorem returnBack (inv : InstructionInvariant P) (h : P m) :
    P (stateAfter Machine.returnBack m) := by
  unfold stateAfter Machine.returnBack
  cases popped : m.stack.pop with
  | error fault => exact h
  | ok top => exact inv.ret h popped

theorem execute (inv : InstructionInvariant P) (h : P m) (instruction : Instruction) :
    P (stateAfter (Machine.execute instruction) m) := by
  cases instruction with
  | ret => exact inv.returnBack h
  | call target => exact inv.callTo h target
  | awaitKey x => exact inv.beginWait h x
  | _ => exact inv.toPlainInvariant.execute h rfl

end InstructionInvariant

theorem StepInvariant.step {P : Machine → Prop} {m : Machine} (inv : StepInvariant P) (h : P m) :
    P (stateAfter Machine.step m) := by
  unfold stateAfter Machine.step
  cases m.processor.phase with
  | awaitingKey => exact inv.poll h
  | running =>
    have traced : P (m.fetched.traced (Instruction.decode m.fetched.processor.opcode)) := by
      unfold Machine.traced
      split
      · exact inv.print (inv.fetch h) _
      · exact inv.fetch h
    exact inv.execute traced _

end Machine

end Chip8
