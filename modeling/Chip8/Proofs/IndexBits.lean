import Chip8.Memory.Agreement
import Chip8.Proofs.Lockstep.History

namespace Chip8

/-- The same text, or the same but for an index register written in it, of the same low bits. -/
inductive SameButIndex : String → String → Prop where
  | same (text : String) : SameButIndex text text
  | index (before after : String) {i i' : Int} (low : i' % 4096 = i % 4096) :
      SameButIndex (before ++ Text.hex 4 i ++ after) (before ++ Text.hex 4 i' ++ after)

/-- Two machines that are the same but for the high bits of their index registers, and for what they
have printed about them. -/
inductive IndexTwins (m : Machine) : Machine → Prop where
  | intro (i' : Int) (printed' : Array String)
      (low : i' % 4096 = m.processor.i % 4096)
      (lines : List.Forall₂ SameButIndex m.printed.toList printed'.toList) :
      IndexTwins m { m with processor.i := i', printed := printed' }

theorem SameButIndex.append {text text' : String} (h : SameButIndex text text')
    (before after : String) :
    SameButIndex (before ++ text ++ after) (before ++ text' ++ after) := by
  cases h with
  | same => exact .same _
  | index before' after' low =>
    have widened := SameButIndex.index (before ++ before') (after' ++ after) low
    simpa only [← String.append_assoc] using widened

instance : Std.Refl SameButIndex where
  refl := .same

namespace Machine

variable {m m' : Machine}

def lineAfterIndex (m : Machine) (mnemonic : String) : String :=
  " DT: 0x" ++ Text.hexByte m.timers.delay ++ " ST: 0x" ++ Text.hexByte m.timers.sound ++
    " PC: 0x" ++ Text.hex 3 m.processor.fetchedAt ++ " OP: 0x" ++ m.processor.opcode.text ++
    " IN: " ++ mnemonic

def reportAfterLine (m : Machine) (reason : String) : String :=
  "\nStack:" ++ m.stackText ++ "\nState: " ++ phaseText m.processor.phase ++
    "\n\n" ++ reason ++ " (opcode 0x" ++ m.processor.opcode.text ++ " at address 0x" ++
    Text.hex 3 m.processor.fetchedAt ++ ")"

theorem traceLine_eq (m : Machine) (mnemonic : String) :
    m.traceLine mnemonic =
      "V: 0x" ++ m.registersText ++ " I: 0x" ++ Text.hex 4 m.processor.i ++
        m.lineAfterIndex mnemonic := by
  unfold traceLine lineAfterIndex
  simp only [← String.append_assoc]

theorem crashReport_eq (m : Machine) (reason : String) :
    m.crashReport reason =
      "Emulation halted.\n\n" ++ introduction ++ "Debug info:\n" ++
        m.traceLine m.currentMnemonic ++ m.reportAfterLine reason := by
  unfold crashReport dump reportAfterLine
  simp only [← String.append_assoc]

theorem sameButIndex_traceLine (h : IndexTwins m m') (mnemonic : String) :
    SameButIndex (m.traceLine mnemonic) (m'.traceLine mnemonic) := by
  cases h with
  | intro i' printed' low =>
    rw [traceLine_eq, traceLine_eq]
    exact .index _ _ low

theorem sameButIndex_crashReport (h : IndexTwins m m') (reason : String) :
    SameButIndex (m.crashReport reason) (m'.crashReport reason) := by
  have line := sameButIndex_traceLine h m.currentMnemonic
  cases h with
  | intro i' printed' =>
    rw [crashReport_eq, crashReport_eq]
    exact line.append _ _

theorem emod_moved {i i' : Int} (low : i' % 4096 = i % 4096) (offset : Int) :
    (i' + offset) % 65536 % 4096 = (i + offset) % 65536 % 4096 := by
  omega

theorem indexTwins_shared : Shared IndexTwins where
  v h := by cases h; rfl
  pc h := by cases h; rfl
  index h := by
    cases h with
    | intro i' printed' low => exact low
  keyRegister h := by cases h; rfl
  memory h := by cases h; rfl
  stack h := by cases h; rfl
  screen h := by cases h; rfl

theorem indexTwins_instructionLockstep :
    InstructionLockstep (Fault.Akin SameButIndex) IndexTwins where
  toShared := indexTwins_shared
  fault := .same
  report h reason := .unmapped (sameButIndex_crashReport h reason)
  registers := fun ⟨i', printed', low, lines⟩ _ => ⟨i', printed', low, lines⟩
  jump := fun ⟨i', printed', low, lines⟩ _ => ⟨i', printed', low, lines⟩
  setIndex := fun ⟨_, printed', _, lines⟩ i => ⟨i, printed', rfl, lines⟩
  moveIndex := fun ⟨i', printed', low, lines⟩ offset =>
    ⟨(i' + offset) % 65536, printed', emod_moved low offset, lines⟩
  await := fun ⟨i', printed', low, lines⟩ _ => ⟨i', printed', low, lines⟩
  resume := fun ⟨i', printed', low, lines⟩ => ⟨i', printed', low, lines⟩
  picture := fun ⟨i', printed', low, lines⟩ _ => ⟨i', printed', low, lines⟩
  setDelay := fun ⟨i', printed', low, lines⟩ _ => ⟨i', printed', low, lines⟩
  setSound := fun ⟨i', printed', low, lines⟩ _ => ⟨i', printed', low, lines⟩
  noise := fun ⟨i', printed', low, lines⟩ => ⟨i', printed', low, lines⟩
  store := fun ⟨i', printed', low, lines⟩ _ => ⟨i', printed', low, lines⟩
  stacked := fun ⟨i', printed', low, lines⟩ _ => ⟨i', printed', low, lines⟩

theorem forall₂_push {lines lines' : Array String} {line line' : String}
    (older : List.Forall₂ SameButIndex lines.toList lines'.toList)
    (newest : SameButIndex line line') :
    List.Forall₂ SameButIndex (lines.push line).toList (lines'.push line').toList := by
  rw [Array.toList_push, Array.toList_push]
  exact List.rel_append older (.cons newest .nil)

theorem indexTwins_prepared (h : IndexTwins m m') : IndexTwins m.prepared m'.prepared := by
  have fetched : IndexTwins m.fetched m'.fetched := by
    obtain ⟨i', printed', low, lines⟩ := h
    exact ⟨i', printed', low, lines⟩
  have line := sameButIndex_traceLine fetched
    (Instruction.decode (m.memory.word m.processor.pc)).mnemonic
  obtain ⟨i', printed', low, lines⟩ := h
  refine ⟨i', _, low, ?_⟩
  unfold prepared
  dsimp only
  split
  · exact forall₂_push lines line
  · exact lines

theorem indexTwins_stepLockstep : StepLockstep (Fault.Akin SameButIndex) IndexTwins where
  toInstructionLockstep := indexTwins_instructionLockstep
  phase h := by cases h; rfl
  prepare := indexTwins_prepared

theorem indexTwins_historyLockstep : HistoryLockstep (Fault.Akin SameButIndex) IndexTwins where
  toStepLockstep := indexTwins_stepLockstep
  dialect h := by cases h; rfl
  stepsPerFrame h := by cases h; rfl
  keypad h := by cases h; rfl
  timers h := by cases h; rfl
  random h := by cases h; rfl
  load := fun ⟨_, printed', _, lines⟩ _ => ⟨0, printed', rfl, lines⟩
  reset := fun ⟨_, printed', _, lines⟩ => ⟨0, printed', rfl, lines⟩
  time := fun ⟨i', printed', low, lines⟩ _ => ⟨i', printed', low, lines⟩
  count := fun ⟨i', printed', low, lines⟩ => ⟨i', printed', low, lines⟩
  keys := fun ⟨i', printed', low, lines⟩ _ => ⟨i', printed', low, lines⟩

variable {τ σ : Type}

/-- A machine whose index register differs only above its low twelve bits goes through any history
as the machine itself does: they stay the same but for these bits and for the lines that tell of
them, show and sound the same to the host, and fail at the same operations with the same faults, but
for the text of the report of an unmapped word. -/
theorem history_high_index_bits (host : Host τ σ) (s : Machine × σ) (i' : Int)
    (low : i' % 4096 = s.1.processor.i % 4096) (operations : List Operation) :
    let s' := ({ s.1 with processor.i := i' }, s.2)
    let t := Operation.history host operations s
    let t' := Operation.history host operations s'
    IndexTwins t.1 t'.1 ∧ t'.2 = t.2 ∧
      List.Forall₂ (Option.Rel (Fault.Akin SameButIndex)) (Operation.faults host operations s)
        (Operation.faults host operations s') := by
  intro s' t t'
  have hosts : Host.Alike (Fault.Akin SameButIndex) (· = ·) host host := {
    present := fun picture => lockstep_refl .same (host.present picture)
    tone := lockstep_refl .same host.tone }
  have start : Both IndexTwins (· = ·) s s' :=
    ⟨⟨i', s.1.printed, low, List.forall₂_refl s.1.printed.toList⟩, rfl⟩
  obtain ⟨still, faults⟩ := indexTwins_historyLockstep.history hosts operations start
  exact ⟨still.machines, still.hosts.symm, faults⟩

theorem index_step_addIndex {x : Nibble} (running : m.processor.phase = .running)
    (word : m.memory.word m.processor.pc = ⟨0xF, x, 0x1, 0xE⟩) :
    (stateAfter step m).processor.i = (m.processor.i + (m.register x).toNat) % 65536 := by
  rw [stateAfter_step_of_running running, word, Instruction.decode_miscellaneous]
  rfl

def adder (i : Int) : Machine :=
  { new {} [] (Noise.cycle #[]) with
    processor.v := Vector.replicate 16 1
    processor.i := i
    memory := Memory.image #[0xF0, 0x1E] }

theorem index_history_adder (i : Int) :
    (Operation.history Host.silent [.step] (adder i, ())).1.processor.i = (i + 1) % 65536 := by
  have stepped : (Operation.history Host.silent [.step] (adder i, ())).1 =
      stateAfter step (adder i) := Operation.machine_step Host.silent (adder i, ())
  have word : (adder i).memory.word (adder i).processor.pc = ⟨0xF, 0x0, 0x1, 0xE⟩ :=
    Memory.word_image #[0xF0, 0x1E] (k := 0) (by decide)
  have one : (adder i).register 0x0 = 1 := by
    change (Vector.replicate 16 (1 : UInt8)).get 0x0 = 1
    decide
  rw [stepped, index_step_addIndex rfl word, one]
  rfl

theorem history_high_index_bits_carry :
    let t := Operation.history Host.silent [.step] (adder 0x0FFF, ())
    let t' := Operation.history Host.silent [.step] (adder 0xFFFF, ())
    (0xFFFF : Int) % 4096 = 0x0FFF % 4096 ∧ t.1.processor.i = 0x1000 ∧ t'.1.processor.i = 0 ∧
      IndexTwins t.1 t'.1 := by
  have twins := history_high_index_bits Host.silent (adder 0x0FFF, ()) 0xFFFF (by decide) [.step]
  have carried := index_history_adder 0x0FFF
  have dropped := index_history_adder 0xFFFF
  refine ⟨by decide, ?_, ?_, twins.1⟩
  · exact carried.trans (by decide)
  · exact dropped.trans (by decide)

end Machine

end Chip8
