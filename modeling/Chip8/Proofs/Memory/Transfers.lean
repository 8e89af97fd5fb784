import Chip8.Memory.Agreement
import Chip8.Proofs.Table.Refinement

namespace Chip8

namespace Memory

variable {memory : Memory} {address other : Int} {first second bytes : List UInt8} {count : Nat}

def Writable (address : Int) (count : Nat) : Prop :=
  ∀ k < count, 0x200 ≤ (address + k) % 4096

theorem firstReserved_eq_none_iff :
    firstReserved address count = none ↔ Writable address count := by
  unfold firstReserved Writable
  rw [List.find?_eq_none]
  simp only [List.mem_range, decide_eq_true_eq, Int.not_lt]

theorem Writable.congr (writable : Writable address count)
    (same : address % 4096 = other % 4096) : Writable other count := by
  intro k inside
  have above := writable k inside
  omega

theorem Writable.append {more : Nat} (writable : Writable address count)
    (further : Writable (address + count) more) : Writable address (count + more) := by
  intro k inside
  by_cases early : k < count
  · exact writable k early
  · have late := further (k - count) (by omega)
    have same : address + count + ((k - count : Nat) : Int) = address + k := by omega
    rwa [same] at late

theorem Writable.le (writable : Writable address count) : count ≤ 3584 := by
  by_contra more
  have bottom := writable 0 (by omega)
  have above := writable (4096 - address % 4096).toNat (by omega)
  omega

theorem laid_congr (same : address % 4096 = other % 4096) :
    laid memory address bytes = laid memory other bytes := by
  apply Vector.ext
  intro k hk
  have offset : ((k : Int) - address) % 4096 = ((k : Int) - other) % 4096 := by omega
  simp only [laid, Vector.getElem_ofFn, offset]

theorem laid_append (fits : first.length + second.length ≤ 4096) :
    laid (laid memory address first) (address + first.length) second =
      laid memory address (first ++ second) := by
  induction first generalizing memory address with
  | nil => simp [laid_nil]
  | cons value first ih =>
    rw [List.length_cons] at fits
    have next : address + ((value :: first).length : Nat) = address + 1 + first.length := by
      rw [List.length_cons]
      omega
    have room : (first ++ second).length < 4096 := by
      rw [List.length_append]
      omega
    rw [← laid_cons value (by omega), next, ih (by omega), laid_cons value room, List.cons_append]

theorem byte_laid (fits : bytes.length ≤ 4096) {k : Nat} (inside : k < bytes.length) :
    (laid memory address bytes).byte (address + k) = bytes[k] := by
  have located := place_val (address + k)
  have offset : ((((place (address + k)).val : Nat) : Int) - address) % 4096 = k := by omega
  simp only [byte, laid, Fin.getElem_fin, Vector.getElem_ofFn, offset]
  simp [inside]

theorem get_laid_of_apart {cell : Address}
    (apart : ∀ k < bytes.length, place (address + k) ≠ cell) :
    (laid memory address bytes).get cell = memory.get cell := by
  have beyond : bytes.length ≤ (((cell.val : Int) - address) % 4096).toNat := by
    by_contra inside
    refine apart _ (not_le.1 inside) (Fin.ext ?_)
    have located := place_val (address + ((((cell.val : Int) - address) % 4096).toNat : Nat))
    omega
  simp only [Bank.get_eq, laid, Vector.getElem_ofFn]
  rw [List.getD_eq_default _ _ beyond]

theorem byte_laid_of_apart {target : Int}
    (apart : ∀ k < bytes.length, (address + k) % 4096 ≠ target % 4096) :
    (laid memory address bytes).byte target = memory.byte target := by
  change (laid memory address bytes).get (place target) = memory.get (place target)
  refine get_laid_of_apart fun k inside same => apart k inside ?_
  rw [← place_val, ← place_val, same]

theorem eq_of_place_eq {j k : Nat} (near : j < 4096) (close : k < 4096)
    (same : place (address + j) = place (address + k)) : j = k := by
  have one := place_val (address + j)
  have two := place_val (address + k)
  rw [same] at one
  omega

end Memory

namespace Machine

variable {m mid last next : Machine} {x : Nibble} {bytes : List UInt8}

structure About (m : Machine) (word : Opcode) : Prop where
  running : m.processor.phase = .running
  fetches : m.memory.word m.processor.pc = word

theorem About.step_eq {word : Opcode} (about : m.About word) :
    step m = execute (Instruction.decode word) m.prepared :=
  step_of_word about.running about.fetches

theorem getElem_registersUpTo {k : Nat} (inside : k < (m.registersUpTo x).length)
    (low : k < 16) : (m.registersUpTo x)[k] = m.register ⟨k, low⟩ := by
  simp only [registersUpTo, List.getElem_take, Vector.getElem_toList]
  rfl

theorem register_loadUpTo (m : Machine) (x k : Nibble) :
    (m.loadUpTo x).register k =
      if k ≤ x then m.memory.byte (m.processor.i + k.val) else m.register k := by
  simp only [register, loadUpTo, Bank.get_eq, Vector.getElem_mapIdx, ← Fin.le_def]

theorem indexMoved_cases (m : Machine) (x : Nibble) :
    m.indexMoved x = m ∨ m.indexMoved x = m.setIndex ((m.processor.i + x.val + 1) % 65536) := by
  unfold indexMoved
  split
  · exact .inr rfl
  · exact .inl rfl

theorem memory_indexMoved (m : Machine) (x : Nibble) : (m.indexMoved x).memory = m.memory := by
  rcases m.indexMoved_cases x with same | moved
  · rw [same]
  · rw [moved]
    rfl

theorem register_indexMoved (m : Machine) (x k : Nibble) :
    (m.indexMoved x).register k = m.register k := by
  rcases m.indexMoved_cases x with same | moved
  · rw [same]
  · rw [moved]
    rfl

theorem storeAtIndex_eq_ok_iff (fits : bytes.length ≤ 4096) :
    storeAtIndex bytes m = .ok () next ↔
      Memory.Writable m.processor.i bytes.length ∧
        next = { m with memory := m.memory.laid m.processor.i bytes } := by
  rw [storeAtIndex_eq, Memory.storeAll_eq _ _ _ fits, ← Memory.firstReserved_eq_none_iff]
  cases Memory.firstReserved m.processor.i bytes.length with
  | none => simp [eq_comm]
  | some k => simp

theorem storeRegisters_eq_ok_iff :
    execute (.storeRegisters x) m = .ok () next ↔
      Memory.Writable m.processor.i (x.val + 1) ∧
        next = { m with
          memory := m.memory.laid m.processor.i (m.registersUpTo x) }.indexMoved x := by
  have length := m.length_registersUpTo x
  rw [execute_storeRegisters, Memory.storeAll_eq _ _ _ (by omega), length,
    ← Memory.firstReserved_eq_none_iff]
  cases Memory.firstReserved m.processor.i (x.val + 1) with
  | none => simp [eq_comm]
  | some k => simp

theorem step_storeRegisters_iff (about : m.About ⟨0xF, x, 0x5, 0x5⟩) :
    step m = .ok () next ↔
      Memory.Writable m.processor.i (x.val + 1) ∧
        next = { m.prepared with
          memory := m.memory.laid m.processor.i (m.registersUpTo x) }.indexMoved x := by
  rw [about.step_eq, Instruction.decode_miscellaneous]
  exact storeRegisters_eq_ok_iff (m := m.prepared)

theorem stored_of_step (moves : m.settings.dialect.movesIndex = true)
    (about : m.About ⟨0xF, x, 0x5, 0x5⟩) (stepped : step m = .ok () next) :
    Memory.Writable m.processor.i (x.val + 1) ∧
      next = { m.prepared with
        memory := m.memory.laid m.processor.i (m.registersUpTo x)
        processor.i := (m.processor.i + x.val + 1) % 65536 } := by
  obtain ⟨writable, rfl⟩ := (step_storeRegisters_iff about).1 stepped
  exact ⟨writable, if_pos moves⟩

theorem step_storeDecimal_iff (about : m.About ⟨0xF, x, 0x3, 0x3⟩) :
    step m = .ok () next ↔
      Memory.Writable m.processor.i 3 ∧
        next = { m.prepared with
          memory := m.memory.laid m.processor.i (decimalDigits (m.register x)) } := by
  have fits : (decimalDigits (m.register x)).length ≤ 4096 := Nat.le_of_ble_eq_true rfl
  rw [about.step_eq, Instruction.decode_miscellaneous]
  exact storeAtIndex_eq_ok_iff (m := m.prepared) fits

theorem step_loadRegisters (about : m.About ⟨0xF, x, 0x6, 0x5⟩) :
    ∃ loaded, step m = .ok () loaded ∧ loaded.memory = m.memory ∧
      ∀ k : Nibble, loaded.register k =
        if k ≤ x then m.memory.byte (m.processor.i + k.val) else m.register k := by
  refine ⟨(m.prepared.loadUpTo x).indexMoved x, ?_, memory_indexMoved _ x, fun k => ?_⟩
  · rw [about.step_eq, Instruction.decode_miscellaneous]
    rfl
  · rw [register_indexMoved, register_loadUpTo]
    rfl

/-- Wherever the cells from an address on are as they are in this memory, a load of the registers up
to `x` at that address gives them these values, and leaves the others and memory alone. -/
def LoadsBack (memory : Memory) (address : Int) (x : Nibble) (value : Nibble → UInt8) : Prop :=
  ∀ later : Machine, later.About ⟨0xF, x, 0x6, 0x5⟩ → later.processor.i = address →
    (∀ k ≤ x.val, later.memory.byte (address + k) = memory.byte (address + k)) →
    ∃ loaded, step later = .ok () loaded ∧ loaded.memory = later.memory ∧
      ∀ k : Nibble, loaded.register k = if k ≤ x then value k else later.register k

theorem loadsBack_of_byte {memory : Memory} {address : Int} {value : Nibble → UInt8}
    (holds : ∀ k ≤ x, memory.byte (address + k.val) = value k) :
    LoadsBack memory address x value := by
  intro later about index same
  obtain ⟨loaded, stepped, kept, registers⟩ := step_loadRegisters about
  refine ⟨loaded, stepped, kept, fun k => ?_⟩
  rw [registers k, index]
  by_cases low : k ≤ x
  · rw [if_pos low, if_pos low, same k.val low, holds k low]
  · rw [if_neg low, if_neg low]

theorem registers_loadBack (about : m.About ⟨0xF, x, 0x5, 0x5⟩)
    (writable : Memory.Writable m.processor.i (x.val + 1)) :
    ∃ stored, step m = .ok () stored ∧
      LoadsBack stored.memory m.processor.i x m.register := by
  have length := m.length_registersUpTo x
  refine ⟨_, (step_storeRegisters_iff about).2 ⟨writable, rfl⟩, loadsBack_of_byte fun k low => ?_⟩
  have inside : k.val < (m.registersUpTo x).length := by
    have := Fin.le_def.1 low
    omega
  rw [memory_indexMoved]
  exact (Memory.byte_laid (by omega) inside).trans (getElem_registersUpTo inside k.isLt)

theorem toNat_decimalDigits (value : UInt8) :
    ∃ hundreds tens ones, decimalDigits value = [hundreds, tens, ones] ∧
      hundreds.toNat ≤ 9 ∧ tens.toNat ≤ 9 ∧ ones.toNat ≤ 9 ∧
      100 * hundreds.toNat + 10 * tens.toNat + ones.toNat = value.toNat := by
  have bound := value.toNat_lt
  refine ⟨_, _, _, rfl, ?_⟩
  simp only [UInt8.toNat_div, UInt8.toNat_mod, UInt8.toNat_ofNat, Nat.reducePow, Nat.reduceMod]
  omega

theorem digits_loadBack (about : m.About ⟨0xF, x, 0x3, 0x3⟩)
    (writable : Memory.Writable m.processor.i 3) :
    ∃ stored, step m = .ok () stored ∧
      let digit (k : Nibble) := stored.memory.byte (m.processor.i + k.val)
      ((digit 0).toNat ≤ 9 ∧ (digit 1).toNat ≤ 9 ∧ (digit 2).toNat ≤ 9 ∧
        100 * (digit 0).toNat + 10 * (digit 1).toNat + (digit 2).toNat = (m.register x).toNat) ∧
      LoadsBack stored.memory m.processor.i 2 digit := by
  obtain ⟨hundreds, tens, ones, digits, spelt⟩ := toNat_decimalDigits (m.register x)
  have stored := (step_storeDecimal_iff about).2 ⟨writable, rfl⟩
  rw [digits] at stored
  refine ⟨_, stored, ?_, loadsBack_of_byte fun k _ => rfl⟩
  have fits : [hundreds, tens, ones].length ≤ 4096 := Nat.le_of_ble_eq_true rfl
  have cell (k : Nibble) (inside : k.val < 3) :
      (m.memory.laid m.processor.i [hundreds, tens, ones]).byte (m.processor.i + k.val) =
        [hundreds, tens, ones][k.val] :=
    Memory.byte_laid fits inside
  dsimp only
  rw [cell 0 (by decide), cell 1 (by decide), cell 2 (by decide)]
  exact spelt

/-- Steps in turn that each store registers, and all the bytes they store, in order. -/
inductive StoresInTurn : Machine → List UInt8 → Machine → Prop where
  | none (m : Machine) : StoresInTurn m [] m
  | next {m mid last : Machine} {x : Nibble} {bytes : List UInt8}
      (about : m.About ⟨0xF, x, 0x5, 0x5⟩) (stepped : step m = .ok () mid)
      (rest : StoresInTurn mid bytes last) : StoresInTurn m (m.registersUpTo x ++ bytes) last

/-- Bytes were laid over memory from the index register on, and the index register moved past
them. -/
structure LaidInTurn (m : Machine) (bytes : List UInt8) (last : Machine) : Prop where
  index : last.processor.i = (m.processor.i + bytes.length) % 65536
  writable : Memory.Writable m.processor.i bytes.length
  memory : last.memory = m.memory.laid m.processor.i bytes

theorem StoresInTurn.laid (stores : StoresInTurn m bytes last)
    (range : 0 ≤ m.processor.i ∧ m.processor.i < 65536)
    (moves : m.settings.dialect.movesIndex = true) : LaidInTurn m bytes last := by
  induction stores with
  | none m =>
    refine ⟨?_, nofun, Memory.laid_nil.symm⟩
    rw [List.length_nil]
    omega
  | @next m mid last x bytes about stepped rest ih =>
    have length := m.length_registersUpTo x
    obtain ⟨writable, rfl⟩ := stored_of_step moves about stepped
    obtain ⟨index, further, memory⟩ := ih (by constructor <;> dsimp only <;> omega) moves
    dsimp only at index further memory
    -- The index register wraps at a multiple of the size of memory.
    have wraps : (m.processor.i + x.val + 1) % 65536 % 4096 =
        (m.processor.i + (m.registersUpTo x).length) % 4096 := by omega
    have all := Memory.Writable.append (length ▸ writable) (further.congr wraps)
    have most := all.le
    constructor
    · rw [index, List.length_append]
      omega
    · rwa [List.length_append]
    · rw [memory, Memory.laid_congr wraps, Memory.laid_append (by omega)]

/-- What is stored is loaded again: a load of registers at the old index register, wherever the
stored cells are as the store left them, gives the registers that the store read. Three stored
digits spell the register, and are loaded like any other cells. Stores in turn put each byte,
counted through, so many places behind the first, all at different places and touching no other
cell. -/
theorem stores_loadBack (m : Machine) (h : m.WellFormed) :
    (∀ x : Nibble, m.About ⟨0xF, x, 0x5, 0x5⟩ → Memory.Writable m.processor.i (x.val + 1) →
      ∃ stored, step m = .ok () stored ∧
        LoadsBack stored.memory m.processor.i x m.register) ∧
    (∀ x : Nibble, m.About ⟨0xF, x, 0x3, 0x3⟩ → Memory.Writable m.processor.i 3 →
      ∃ stored, step m = .ok () stored ∧
        let digit (k : Nibble) := stored.memory.byte (m.processor.i + k.val)
        ((digit 0).toNat ≤ 9 ∧ (digit 1).toNat ≤ 9 ∧ (digit 2).toNat ≤ 9 ∧
          100 * (digit 0).toNat + 10 * (digit 1).toNat + (digit 2).toNat =
            (m.register x).toNat) ∧
        LoadsBack stored.memory m.processor.i 2 digit) ∧
    (m.settings.dialect.movesIndex = true → ∀ bytes last, StoresInTurn m bytes last →
      last.processor.i = (m.processor.i + bytes.length) % 65536 ∧
      (∀ (k : Nat) (inside : k < bytes.length), 0x200 ≤ (m.processor.i + k) % 4096 ∧
        last.memory.byte (m.processor.i + k) = bytes[k]) ∧
      (∀ j < bytes.length, ∀ k < bytes.length,
        Memory.place (m.processor.i + j) = Memory.place (m.processor.i + k) → j = k) ∧
      ∀ cell : Address, (∀ k < bytes.length, Memory.place (m.processor.i + k) ≠ cell) →
        last.memory.get cell = m.memory.get cell) := by
  refine ⟨fun x => registers_loadBack, fun x => digits_loadBack, ?_⟩
  intro moves bytes last stores
  obtain ⟨index, writable, memory⟩ := stores.laid h.index moves
  have most := writable.le
  refine ⟨index, ?_, ?_, ?_⟩
  · intro k inside
    rw [memory]
    exact ⟨writable k inside, Memory.byte_laid (by omega) inside⟩
  · intro j first k second same
    exact Memory.eq_of_place_eq (by omega) (by omega) same
  · intro cell apart
    rw [memory]
    exact Memory.get_laid_of_apart apart

def shelving : Array UInt8 := #[0xF1, 0x55, 0xF0, 0x55, 0xF1, 0x65]

def shelver : Machine :=
  { new {} [] (Noise.cycle #[]) with
    processor.v := Vector.ofFn fun k => UInt8.ofNat (16 * k + 1)
    processor.i := 0xFFFD
    memory := Memory.image shelving }

theorem word_shelved (bytes : List UInt8) (few : bytes.length ≤ 3) {k : Nat} (inside : k < 6) :
    ((Memory.image shelving).laid 0xFFFD bytes).word (0x200 + k) =
      Opcode.ofBytes (shelving.getD k 0) (shelving.getD (k + 1) 0) := by
  have room : k + 1 < Memory.programSpace := by
    unfold Memory.programSpace Memory.programStart
    omega
  rw [← Memory.word_image shelving room]
  unfold Memory.word Memory.programStart
  rw [Memory.byte_laid_of_apart (by omega), Memory.byte_laid_of_apart (by omega)]
  rfl

theorem wellFormed_shelver : shelver.WellFormed :=
  have fresh := inRange_new {} [] (Noise.cycle #[])
  ⟨fresh.pc, ⟨by decide, by decide⟩, fresh.stack, fresh.screen⟩

theorem stores_loadBack_shelver :
    shelver.WellFormed ∧ ∃ stored last loaded,
      step shelver = .ok () stored ∧ stored.processor.i = 0xFFFF ∧
      step stored = .ok () last ∧ last.processor.i = 0 ∧
      last.memory.byte 0xFFFE = 17 ∧ last.memory.byte 0xFFFF = 1 ∧
      step { last with processor.i := 0xFFFD, processor.v := Bank.zeros 16 } = .ok () loaded ∧
      loaded.register 1 = 17 ∧ loaded.register 2 = 0 := by
  obtain ⟨loads, -, turns⟩ := stores_loadBack shelver wellFormed_shelver
  have first : shelver.About ⟨0xF, 0x1, 0x5, 0x5⟩ :=
    ⟨rfl, Memory.word_image shelving (k := 0) (by decide)⟩
  have writable : Memory.Writable 0xFFFD 2 := by
    intro k inside
    omega
  obtain ⟨stored, stepped, back⟩ := loads 1 first writable
  obtain ⟨-, left⟩ := stored_of_step rfl first stepped
  have second : stored.About ⟨0xF, 0x0, 0x5, 0x5⟩ := by
    rw [left]
    exact ⟨rfl, word_shelved _ (by decide) (k := 2) (by decide)⟩
  have top : Memory.Writable stored.processor.i 1 := by
    rw [left]
    intro k inside
    change 0x200 ≤ (0xFFFF + (k : Int)) % 4096
    omega
  obtain ⟨last, again⟩ : ∃ last, step stored = .ok () last :=
    ⟨_, (step_storeRegisters_iff second).2 ⟨top, rfl⟩⟩
  have stores := StoresInTurn.next first stepped (.next second again (.none last))
  have values : shelver.registersUpTo 1 ++ (stored.registersUpTo 0 ++ []) = [1, 17, 1] := by
    rw [left]
    rfl
  rw [values] at stores
  obtain ⟨index, bytes, -⟩ := turns rfl _ _ stores
  have memory := (stores.laid wellFormed_shelver.index rfl).memory
  have third : { last with processor.i := 0xFFFD, processor.v := Bank.zeros 16 }.About
      ⟨0xF, 0x1, 0x6, 0x5⟩ := by
    obtain ⟨-, rfl⟩ := stored_of_step (left ▸ rfl) second again
    refine ⟨left ▸ rfl, ?_⟩
    have pc : stored.prepared.processor.pc = 0x204 := left ▸ rfl
    dsimp only at memory ⊢
    rw [memory, pc]
    exact word_shelved _ (by decide) (k := 4) (by decide)
  have held : stored.memory = shelver.memory.laid 0xFFFD [1, 17] := left ▸ rfl
  have same (k : Nat) (low : k ≤ 1) :
      last.memory.byte (0xFFFD + k) = stored.memory.byte (0xFFFD + k) := by
    have inside : k < [(1 : UInt8), 17].length := Nat.lt_succ_of_le low
    have laid : stored.memory.byte (0xFFFD + k) = [(1 : UInt8), 17][k] := by
      rw [held]
      exact Memory.byte_laid (by decide) inside
    refine (bytes k (Nat.lt_succ_of_lt inside)).2.trans (Eq.trans ?_ laid.symm)
    rcases Nat.le_one_iff_eq_zero_or_eq_one.1 low with rfl | rfl <;> rfl
  obtain ⟨loaded, done, -, registers⟩ := back _ third rfl same
  exact ⟨wellFormed_shelver, stored, last, loaded, stepped, left ▸ rfl, again, index,
    (bytes 1 (by decide)).2, (bytes 2 (by decide)).2, done, registers 1, registers 2⟩

end Machine

end Chip8
