import Chip8.Memory.Agreement
import Chip8.Proofs.Table.Classes

namespace Chip8

namespace Machine

variable {m : Machine} {c : Console}

theorem outcome_decode (ahead : m.Ahead c) (word : Opcode) :
    outcome (execute (Instruction.decode word)) m = c.run m.settings.dialect word := by
  obtain ⟨kind, x, y, n⟩ := word
  fin_cases kind
  · exact outcome_system ahead x y n
  · exact congrArg some (ahead.jumpTo rfl)
  · exact outcome_call ahead _
  · exact congrArg some (ahead.skipIf (ahead.register_eq_byte ⟨0x3, x, y, n⟩))
  · exact congrArg some (ahead.skipIf (congrArg (! ·) (ahead.register_eq_byte ⟨0x4, x, y, n⟩)))
  · exact outcome_skipIfEqual ahead x y n
  · exact congrArg some (ahead.setRegister x (Opcode.toNat_byte ⟨0x6, x, y, n⟩))
  · exact congrArg some (ahead.setRegister x (ahead.addByte ⟨0x7, x, y, n⟩))
  · exact outcome_arithmetic ahead x y n
  · exact outcome_skipIfDifferent ahead x y n
  · exact congrArg some (ahead.setIndex rfl)
  · exact congrArg some (ahead.jumpTo (ahead.offset _))
  · exact congrArg some (ahead.random ⟨0xC, x, y, n⟩)
  · exact congrArg some (ahead.drawSprite x y n)
  · exact outcome_key ahead x y n
  · exact outcome_miscellaneous ahead x y n

/-- A running machine about to run the word at its program counter: it has noted the address and the
word and, if it runs live, printed a line about them. -/
def prepared (m : Machine) : Machine :=
  { m with
    processor.pc := (m.processor.pc + 2) % 4096
    processor.fetchedAt := m.processor.pc
    processor.opcode := m.memory.word m.processor.pc
    printed :=
      if m.settings.live then
        m.printed.push
          (m.fetched.traceLine (Instruction.decode (m.memory.word m.processor.pc)).mnemonic)
      else m.printed }

theorem step_of_running (running : m.processor.phase = .running) :
    step m = execute (Instruction.decode (m.memory.word m.processor.pc)) m.prepared := by
  have traced : m.fetched.traced (Instruction.decode m.fetched.processor.opcode) = m.prepared := by
    unfold Machine.traced prepared
    change (if m.settings.live then _ else _) = _
    split <;> rfl
  unfold step
  rw [running, ← traced]
  rfl

theorem step_of_word (running : m.processor.phase = .running) {word : Opcode}
    (fetched : m.memory.word m.processor.pc = word) :
    step m = execute (Instruction.decode word) m.prepared := by
  rw [step_of_running running, fetched]

theorem stateAfter_step_of_running (running : m.processor.phase = .running) :
    stateAfter step m =
      stateAfter (execute (Instruction.decode (m.memory.word m.processor.pc))) m.prepared := by
  unfold stateAfter
  rw [step_of_running running]

theorem step_of_awaiting (awaiting : m.processor.phase = .awaitingKey) :
    step m = .ok () m.poll := by
  unfold step
  rw [awaiting]

theorem inRange_prepared (h : m.WellFormed) : m.prepared.InRange :=
  inRange_invariant.print h.fetched _

theorem ahead_prepared (h : m.WellFormed) (running : m.processor.phase = .running) :
    m.prepared.Ahead m.console where
  wellFormed := (inRange_prepared h).toWellFormed
  view := console_advance h
  pc := by
    have range := h.pc
    change m.processor.pc.toNat < 4096
    omega
  running := running

theorem outcome_step (h : m.WellFormed) (running : m.processor.phase = .running) :
    outcome step m = m.console.step m.settings.dialect := by
  have decoded := outcome_decode (ahead_prepared h running) m.console.word
  unfold Console.step
  rw [← console_word h] at decoded ⊢
  unfold outcome
  rw [step_of_running running]
  exact decoded

/-- The next machine is the one that the row of the word at the program counter makes, and there is
one unless the row refuses. -/
theorem step_eq_ok_iff {next : Machine} (h : m.WellFormed)
    (running : m.processor.phase = .running) :
    step m = .ok () next ↔
      next.WellFormed ∧ m.console.step m.settings.dialect = some next.console ∧
        next.margin = m.prepared.margin := by
  have table := outcome_step h running
  have ranges := inRange_instructionInvariant.execute (inRange_prepared h)
    (Instruction.decode (m.memory.word m.processor.pc))
  have margins := (margin_instructionInvariant m.prepared.margin).execute rfl
    (Instruction.decode (m.memory.word m.processor.pc))
  unfold outcome at table
  rw [← stateAfter_step_of_running running] at ranges margins
  unfold stateAfter at ranges margins
  constructor
  · intro done
    rw [done] at table ranges margins
    exact ⟨ranges.toWellFormed, table.symm, margins⟩
  · rintro ⟨wellFormed, row, margin⟩
    cases done : step m with
    | error fault last =>
      rw [done, row] at table
      cases table
    | ok value last =>
      rw [done] at table ranges margins
      -- The row fixes the console and the fetch the margin, so no other machine is left.
      have console : last.console = next.console := Option.some.inj (table.trans row)
      have same : last = next := eq_of_console_of_margin ranges.toWellFormed wellFormed console
        (margins.trans margin.symm)
      rw [same]

def doubling : Machine :=
  { new {} [] (Noise.cycle #[]) with
    processor.v := Vector.replicate 16 200
    memory := Memory.image #[0x8F, 0xF4] }

theorem word_doubling :
    doubling.memory.word doubling.processor.pc = ⟨0x8, 0xF, 0xF, 0x4⟩ :=
  Memory.word_image #[0x8F, 0xF4] (k := 0) (by decide)

theorem run_doubling {m : Machine} (v : m.processor.v = Vector.replicate 16 200)
    (pc : m.processor.pc = 0x200) (dialect : Dialect) (fetchedAt : Int) (opcode : Opcode) :
    m.console.run dialect ⟨0x8, 0xF, 0xF, 0x4⟩ = some { m with
      processor.v := m.processor.v.set 0xF 1
      processor.pc := 0x202
      processor.fetchedAt := fetchedAt
      processor.opcode := opcode }.console := by
  obtain ⟨⟨v', i, pc', fetchedAt', opcode', phase, key⟩, memory⟩ := m
  cases v
  cases pc
  refine congrArg some ?_
  apply Console.ext
  case v =>
    funext k
    fin_cases k <;> rfl
  all_goals rfl

theorem step_eq_ok_iff_doubling :
    doubling.WellFormed ∧ doubling.processor.phase = .running ∧
      step doubling = .ok () { doubling with
        processor.v := doubling.processor.v.set 0xF 1
        processor.pc := 0x202
        processor.fetchedAt := 0x200
        processor.opcode := ⟨0x8, 0xF, 0xF, 0x4⟩ } := by
  have fresh := inRange_new {} [] (Noise.cycle #[])
  have wellFormed : doubling.WellFormed := ⟨fresh.pc, fresh.index, fresh.stack, fresh.screen⟩
  refine ⟨wellFormed, rfl, (step_eq_ok_iff wellFormed rfl).2 ⟨?_, ?_, ?_⟩⟩
  · exact ⟨by decide, fresh.index, fresh.stack, fresh.screen⟩
  · unfold Console.step
    rw [← console_word wellFormed, word_doubling]
    exact run_doubling rfl rfl _ _ _
  · unfold prepared
    rw [word_doubling]
    rfl

end Machine

end Chip8
