import Chip8.Memory

namespace Chip8.Memory

theorem getD_beyond (bytes : Array UInt8) {k : Nat} (h : bytes.size ≤ k) : bytes.getD k 0 = 0 := by
  simp [Array.getD, Nat.not_lt.2 h]

theorem size_font : font.size = 80 := rfl

theorem checkProgram_eq_ok_iff {program : Array UInt8} :
    checkProgram program = .ok () ↔ program.size ≤ programSpace := by
  unfold checkProgram
  split
  next large => simpa using large
  next small => simpa using small

theorem byte_image (program : Array UInt8) {k : Nat} (inside : k < programSpace) :
    (image program).byte (programStart + k) = program.getD k 0 := by
  unfold programSpace at inside
  have located := place_val (programStart + k)
  have here : (place (programStart + k)).val = programStart + k := by omega
  have above : ¬ (place (programStart + k)).val < programStart := by omega
  have offset : (place (programStart + k)).val - programStart = k := by omega
  simp only [byte, image, Fin.getElem_fin, Vector.getElem_ofFn, above, if_false, offset]

theorem word_image (program : Array UInt8) {k : Nat} (inside : k + 1 < programSpace) :
    (image program).word (programStart + k) =
      Opcode.ofBytes (program.getD k 0) (program.getD (k + 1) 0) := by
  have next : (programStart : Int) + k + 1 = programStart + (k + 1 : Nat) := by omega
  unfold word
  rw [next, byte_image program (Nat.lt_of_succ_lt inside), byte_image program inside]

theorem load_eq_image {program : Array UInt8} (h : program.size ≤ programSpace) :
    ((Bank.zeros 4096).loadFont >>= fun memory => memory.loadProgram program) =
      .ok (image program) := by
  have fontLaid : (Bank.zeros 4096).loadFont = .ok ((Bank.zeros 4096).overlay 0 font) :=
    @Bank.writeBlock_eq_ok 4096 _ 0 font (by decide)
  have space : programStart + program.size ≤ 4096 := by
    simp only [programSpace] at h
    simp only [programStart] at h ⊢
    omega
  have checked := checkProgram_eq_ok_iff.2 h
  rw [fontLaid]
  change Bank.loadProgram _ program = _
  unfold Bank.loadProgram
  rw [checked]
  change Bank.writeBlock _ programStart program = _
  rw [Bank.writeBlock_eq_ok _ space]
  refine congrArg Except.ok (Vector.ext fun k hk => ?_)
  simp only [Bank.getElem_overlay, Bank.getElem_zeros, image, Vector.getElem_ofFn]
  have fontSize : font.size = 80 := size_font
  simp only [programStart] at *
  by_cases low : k < 512
  next =>
    have below : ¬ (512 ≤ k ∧ k < 512 + program.size) := by omega
    simp only [below, low, ↓reduceIte, Nat.sub_zero]
    split
    next => rfl
    next outside => exact (getD_beyond font (by omega)).symm
  next =>
    have above : ¬ (0 ≤ k ∧ k < 0 + Memory.font.size) := by omega
    simp only [above, low, ↓reduceIte]
    split
    next => rfl
    next outside => exact (getD_beyond program (by omega)).symm

theorem fits_masked (address : Int) : fits (address % 4096) := by
  simp only [fits, Bool.and_eq_true, decide_eq_true_eq]
  unfold maxExtent
  omega

theorem readMasked_eq (memory : Memory) (address : Int) :
    Bank.readMasked memory address = .ok (memory.byte address) := by
  unfold Bank.readMasked
  rw [Bank.read_eq_ok memory (by omega) (fits_masked address)]
  rfl

theorem readWord_eq (memory : Memory) (address : Int) :
    Bank.readWord memory address = .ok (memory.word address) := by
  simp [Bank.readWord, readMasked_eq, word, bind, Except.bind, pure, Except.pure]

theorem writeMasked_eq (memory : Memory) (address value : Int) :
    Bank.writeMasked memory address value = memory.store address (lowByte value) := by
  have located : ((place address).val : Int) = address % 4096 := by
    simp only [place]; omega
  unfold Bank.writeMasked store
  by_cases low : address % 4096 < programStart
  next =>
    have low' : (place address).val < programStart := by omega
    simp only [low, low', ↓reduceIte]
    congr 2
  next =>
    have low' : ¬ (place address).val < programStart := by omega
    simp only [low, low', ↓reduceIte]
    rw [Bank.put_eq_ok memory (by omega) (fits_masked address) (by omega)]
    rfl

end Chip8.Memory
