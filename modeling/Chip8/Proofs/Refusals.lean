import Chip8.Proofs.Checked.Agreement
import Chip8.Proofs.Table.Refinement

namespace Chip8

namespace Machine

/-- The words that a machine refuses to run, with the fault and the memory that is left. -/
inductive Refuses (m : Machine) : Opcode → Fault → Memory → Prop where
  | ret (empty : m.stack.toList = []) : Refuses m ⟨0x0, 0x0, 0xE, 0xE⟩ .stackUnderflow m.memory
  | call {x y n : Nibble} (full : m.stack.toList.length = 16) :
      Refuses m ⟨0x2, x, y, n⟩ .stackOverflow m.memory
  | storeDecimal {x : Nibble} {k : Nat} (first : Memory.FirstReserved m.processor.i 3 k) :
      Refuses m ⟨0xF, x, 0x3, 0x3⟩ (.reservedWrite ((m.processor.i + k) % 4096).toNat)
        (m.memory.laid m.processor.i ((decimalDigits (m.register x)).take k))
  | storeRegisters {x : Nibble} {k : Nat}
      (first : Memory.FirstReserved m.processor.i (x + 1) k) :
      Refuses m ⟨0xF, x, 0x5, 0x5⟩ (.reservedWrite ((m.processor.i + k) % 4096).toNat)
        (m.memory.laid m.processor.i ((m.registersUpTo x).take k))
  | unmapped {word : Opcode} (rowless : word.row = none)
      (strict : m.settings.dialect.strict = true) :
      Refuses m word
        (.unmappedOpcode (m.crashReport "Opcode is not part of the CHIP-8 instruction set"))
        m.memory

variable {m next : Machine} {fault : Fault}

theorem returnBack_eq_error_iff :
    returnBack m = .error fault next ↔
      m.stack.toList = [] ∧ fault = .stackUnderflow ∧ next = m := by
  unfold returnBack
  cases popped : m.stack.pop with
  | error cause =>
    have refused := CallStack.pop_eq_error_iff.1 popped
    simp [refused, eq_comm]
  | ok top =>
    have items := CallStack.toList_pop popped
    simp [items]

theorem callTo_eq_error_iff (stack : m.stack.WellFormed) (target : Address) :
    callTo target m = .error fault next ↔
      m.stack.toList.length = 16 ∧ fault = .stackOverflow ∧ next = m := by
  have limit := stack.limit
  have depth := stack.depth
  rw [CallStack.length_toList]
  unfold callTo
  cases pushed : m.stack.push m.processor.pc with
  | error cause =>
    have refused := CallStack.push_eq_error_iff.1 pushed
    have full : m.stack.depth = 16 := by omega
    simp [refused, full, eq_comm]
  | ok rest =>
    have free : ¬ m.stack.depth = 16 := by
      intro full
      rw [CallStack.push_eq_error_iff.2 ⟨by omega, rfl⟩] at pushed
      cases pushed
    simp [free]

theorem storeAtIndex_eq_error_iff {bytes : List UInt8} (fits : bytes.length ≤ 4096) :
    storeAtIndex bytes m = .error fault next ↔
      ∃ k, Memory.FirstReserved m.processor.i bytes.length k ∧
        fault = .reservedWrite ((m.processor.i + k) % 4096).toNat ∧
        next = { m with memory := m.memory.laid m.processor.i (bytes.take k) } := by
  have stored := Memory.storeAll_eq m.memory m.processor.i bytes fits
  rw [storeAtIndex_eq]
  simp only [← Memory.firstReserved_eq_some_iff]
  cases reserved : Memory.firstReserved m.processor.i bytes.length with
  | none =>
    rw [reserved] at stored
    simp [stored]
  | some k =>
    rw [reserved] at stored
    simp [stored, eq_comm]

theorem passUnmapped_eq_error_iff :
    passUnmapped m = .error fault next ↔
      m.settings.dialect.strict = true ∧
        fault = .unmappedOpcode
          (m.crashReport "Opcode is not part of the CHIP-8 instruction set") ∧
        next = m := by
  unfold passUnmapped
  cases m.settings.dialect.strict
  · simp
  · simp [eq_comm]

theorem storeRegisters_eq_error_iff (x : Nibble) :
    execute (.storeRegisters x) m = .error fault next ↔
      storeAtIndex (m.registersUpTo x) m = .error fault next := by
  rw [execute_storeRegisters, storeAtIndex_eq]
  cases (m.memory.storeAll m.processor.i (m.registersUpTo x)).2 with
  | none => simp
  | some cause => rfl

theorem storeDecimal_eq_error_iff (x : Nibble) :
    execute (.storeDecimal x) m = .error fault next ↔
      storeAtIndex (decimalDigits (m.register x)) m = .error fault next := Iff.rfl

theorem execute_eq_error_iff (stack : m.stack.WellFormed) (word : Opcode) :
    execute (Instruction.decode word) m = .error fault next ↔
      ∃ memory, Refuses m word fault memory ∧ next = { m with memory } := by
  constructor
  · -- The word is spelt by its instruction, so an instruction that fails tells the word.
    intro failed
    have spelled := Instruction.encode_decode word
    cases decoded : Instruction.decode word with
    | ret =>
      rw [decoded] at failed spelled
      obtain ⟨empty, rfl, rfl⟩ := returnBack_eq_error_iff.1 failed
      rw [← spelled]
      exact ⟨_, .ret empty, rfl⟩
    | call target =>
      rw [decoded] at failed spelled
      obtain ⟨full, rfl, rfl⟩ := (callTo_eq_error_iff stack target).1 failed
      rw [← spelled]
      exact ⟨_, .call full, rfl⟩
    | storeDecimal x =>
      rw [decoded, storeDecimal_eq_error_iff] at failed
      rw [decoded] at spelled
      obtain ⟨k, first, rfl, rfl⟩ := (storeAtIndex_eq_error_iff (by simp [decimalDigits])).1 failed
      rw [← spelled]
      exact ⟨_, .storeDecimal first, rfl⟩
    | storeRegisters x =>
      rw [decoded, storeRegisters_eq_error_iff] at failed
      rw [decoded] at spelled
      have length := m.length_registersUpTo x
      obtain ⟨k, first, rfl, rfl⟩ := (storeAtIndex_eq_error_iff (by omega)).1 failed
      rw [length] at first
      rw [← spelled]
      exact ⟨_, .storeRegisters first, rfl⟩
    | unmapped other =>
      rw [decoded] at failed spelled
      obtain rfl : other = word := spelled
      obtain ⟨strict, rfl, rfl⟩ := passUnmapped_eq_error_iff.1 failed
      exact ⟨_, .unmapped (Opcode.row_of_unmapped decoded) strict, rfl⟩
    | _ =>
      rw [decoded] at failed
      cases failed
  · rintro ⟨memory, refused, rfl⟩
    cases refused with
    | ret empty => exact returnBack_eq_error_iff.2 ⟨empty, rfl, rfl⟩
    | call full => exact (callTo_eq_error_iff stack _).2 ⟨full, rfl, rfl⟩
    | @storeDecimal x k first =>
      rw [Instruction.decode_miscellaneous]
      refine (storeDecimal_eq_error_iff x).2 ?_
      exact (storeAtIndex_eq_error_iff (by simp [decimalDigits])).2 ⟨k, first, rfl, rfl⟩
    | @storeRegisters x k first =>
      have length := m.length_registersUpTo x
      rw [Instruction.decode_miscellaneous]
      refine (storeRegisters_eq_error_iff x).2 ?_
      refine (storeAtIndex_eq_error_iff (by omega)).2 ⟨k, ?_, rfl, rfl⟩
      rw [length]
      exact first
    | unmapped rowless strict =>
      rw [Opcode.decode_of_rowless rowless]
      exact passUnmapped_eq_error_iff.2 ⟨strict, rfl, rfl⟩

theorem step_eq_error_iff (h : m.WellFormed) (running : m.processor.phase = .running) :
    step m = .error fault next ↔
      ∃ memory, Refuses m.prepared m.prepared.processor.opcode fault memory ∧
        next = { m.prepared with memory } := by
  rw [step_of_running running]
  exact execute_eq_error_iff (m := m.prepared) h.stack _

/-- Whatever was done to a machine, a step that waits for a key never fails, and a step that runs an
instruction fails if and only if the instruction is refused, with nothing done but the fetch and the
stores before the refused one. A step whose every access is checked, with room for the pixels of a
screen, is the same step, so no access is ever out of range. -/
theorem history_step_fails_iff {τ σ : Type} (host : Host τ σ) (world : σ) (settings : Settings)
    (keymap : Keymap) (noise : Noise) (operations : List Operation) :
    let m := (Operation.history host operations (new settings keymap noise, world)).1
    (m.processor.phase = .awaitingKey → ∃ next, step m = .ok () next) ∧
    (m.processor.phase = .running → ∀ fault next,
      step m = .error fault next ↔
        ∃ memory, Refuses m.prepared m.prepared.processor.opcode fault memory ∧
          next = { m.prepared with memory }) ∧
    ∀ room, hasRoom room 2048 = true → Checked.step room m = step m := by
  intro m
  have range : m.InRange :=
    inRange_invariant.history host operations _ (inRange_new settings keymap noise)
  refine ⟨?_, ?_, fun room free => Checked.step_eq free m⟩
  · intro awaiting
    exact ⟨m.poll, step_of_awaiting awaiting⟩
  · intro running fault next
    exact step_eq_error_iff range.toWellFormed running

end Machine

end Chip8
