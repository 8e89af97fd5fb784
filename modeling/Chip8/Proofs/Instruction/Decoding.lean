import Chip8.Proofs.Instruction.Assembly
import Chip8.Proofs.Table.Lookup

namespace Chip8

namespace Pattern

def fill (pattern : Pattern) (word : Opcode) : Opcode where
  kind := pattern.kind.getD word.kind
  x := pattern.x.getD word.x
  y := pattern.y.getD word.y
  n := pattern.n.getD word.n

theorem fits_iff {pattern : Pattern} {word : Opcode} :
    pattern.fits word = true ↔
      pattern.kind.all (· == word.kind) = true ∧ pattern.x.all (· == word.x) = true ∧
        pattern.y.all (· == word.y) = true ∧ pattern.n.all (· == word.n) = true := by
  simp only [Pattern.fits, Bool.and_eq_true, and_assoc]

theorem fill_of_fits {pattern : Pattern} {word : Opcode} (fits : pattern.fits word = true) :
    pattern.fill word = word := by
  have digit {asked : Option Nibble} {found : Nibble} (same : asked.all (· == found) = true) :
      asked.getD found = found := by
    cases asked with
    | none => rfl
    | some value => exact eq_of_beq same
  obtain ⟨kind, x, y, n⟩ := fits_iff.1 fits
  simp only [fill, digit kind, digit x, digit y, digit n]

/-- Whether both of two patterns ask for a digit, and for different ones, at some place. -/
def apart (p q : Pattern) : Bool :=
  let differ (a b : Option Nibble) := a.any fun digit => b.any (· != digit)
  differ p.kind q.kind || differ p.x q.x || differ p.y q.y || differ p.n q.n

theorem not_fits_of_apart {p q : Pattern} {word : Opcode} (apart : p.apart q = true)
    (first : p.fits word = true) : ¬ q.fits word = true := by
  intro second
  have agree {a b : Option Nibble} {found : Nibble} (first : a.all (· == found) = true)
      (second : b.all (· == found) = true) : (a.any fun digit => b.any (· != digit)) = false := by
    cases a <;> cases b <;> simp_all
  obtain ⟨kind, x, y, n⟩ := fits_iff.1 first
  obtain ⟨kind', x', y', n'⟩ := fits_iff.1 second
  simp [Pattern.apart, agree kind kind', agree x x', agree y y', agree n n'] at apart

end Pattern

structure Form where
  pattern : Pattern
  operation : Opcode → Instruction

namespace Form

/-- Calls to native code. Two words that fit are instructions of their own. -/
def system : Form := ⟨.of '0' 'N' 'N' 'N', fun w => .sys w.address⟩

def proper : List Form :=
  [⟨.of '0' '0' 'E' '0', fun _ => .clear⟩,
   ⟨.of '0' '0' 'E' 'E', fun _ => .ret⟩,
   ⟨.of '1' 'N' 'N' 'N', fun w => .jump w.address⟩,
   ⟨.of '2' 'N' 'N' 'N', fun w => .call w.address⟩,
   ⟨.of '3' 'X' 'N' 'N', fun w => .skipIfByte w.x w.byte⟩,
   ⟨.of '4' 'X' 'N' 'N', fun w => .skipUnlessByte w.x w.byte⟩,
   ⟨.of '5' 'X' 'Y' '0', fun w => .skipIfEqual w.x w.y⟩,
   ⟨.of '6' 'X' 'N' 'N', fun w => .loadByte w.x w.byte⟩,
   ⟨.of '7' 'X' 'N' 'N', fun w => .addByte w.x w.byte⟩,
   ⟨.of '8' 'X' 'Y' '0', fun w => .copy w.x w.y⟩,
   ⟨.of '8' 'X' 'Y' '1', fun w => .or w.x w.y⟩,
   ⟨.of '8' 'X' 'Y' '2', fun w => .and w.x w.y⟩,
   ⟨.of '8' 'X' 'Y' '3', fun w => .xor w.x w.y⟩,
   ⟨.of '8' 'X' 'Y' '4', fun w => .add w.x w.y⟩,
   ⟨.of '8' 'X' 'Y' '5', fun w => .sub w.x w.y⟩,
   ⟨.of '8' 'X' 'Y' '6', fun w => .shiftRight w.x w.y⟩,
   ⟨.of '8' 'X' 'Y' '7', fun w => .subReverse w.x w.y⟩,
   ⟨.of '8' 'X' 'Y' 'E', fun w => .shiftLeft w.x w.y⟩,
   ⟨.of '9' 'X' 'Y' '0', fun w => .skipIfDifferent w.x w.y⟩,
   ⟨.of 'A' 'N' 'N' 'N', fun w => .loadIndex w.address⟩,
   ⟨.of 'B' 'N' 'N' 'N', fun w => .jumpOffset w.address⟩,
   ⟨.of 'C' 'X' 'N' 'N', fun w => .random w.x w.byte⟩,
   ⟨.of 'D' 'X' 'Y' 'N', fun w => .draw w.x w.y w.n⟩,
   ⟨.of 'E' 'X' '9' 'E', fun w => .skipIfKey w.x⟩,
   ⟨.of 'E' 'X' 'A' '1', fun w => .skipUnlessKey w.x⟩,
   ⟨.of 'F' 'X' '0' '7', fun w => .readDelay w.x⟩,
   ⟨.of 'F' 'X' '0' 'A', fun w => .awaitKey w.x⟩,
   ⟨.of 'F' 'X' '1' '5', fun w => .setDelay w.x⟩,
   ⟨.of 'F' 'X' '1' '8', fun w => .setSound w.x⟩,
   ⟨.of 'F' 'X' '1' 'E', fun w => .addIndex w.x⟩,
   ⟨.of 'F' 'X' '2' '9', fun w => .loadGlyph w.x⟩,
   ⟨.of 'F' 'X' '3' '3', fun w => .storeDecimal w.x⟩,
   ⟨.of 'F' 'X' '5' '5', fun w => .storeRegisters w.x⟩,
   ⟨.of 'F' 'X' '6' '5', fun w => .loadRegisters w.x⟩]

theorem patterns_eq :
    table.map (·.pattern) =
      (proper.take 2 ++ system :: proper.drop 2).map (·.pattern) := rfl

variable {form : Form} {word : Opcode}

theorem decode_of_proper (member : form ∈ proper) (fits : form.pattern.fits word = true) :
    Instruction.decode word = form.operation word := by
  have filled (word : Opcode) :
      Instruction.decode (form.pattern.fill word) = form.operation (form.pattern.fill word) := by
    fin_cases member
    -- The words of classes E and F are told apart by their last two digits.
    case «23» | «24» => exact Instruction.decode_key _ _ _
    case «25» | «26» | «27» | «28» | «29» | «30» | «31» | «32» | «33» =>
      exact Instruction.decode_miscellaneous _ _ _
    all_goals rfl
  have done := filled word
  rwa [Pattern.fill_of_fits fits] at done

theorem countP_proper_le : proper.countP (·.pattern.fits word) ≤ 1 := by
  have pairwise : proper.Pairwise fun form other => form.pattern.apart other.pattern = true := by
    decide
  generalize proper = forms at pairwise
  induction pairwise with
  | nil => exact Nat.zero_le 1
  | @cons form forms apart _ ih =>
    by_cases fits : form.pattern.fits word = true
    · have unfit : forms.countP (·.pattern.fits word) = 0 := by
        exact List.countP_eq_zero.2 fun other member =>
          Pattern.not_fits_of_apart (apart other member) fits
      rw [List.countP_cons, unfit, if_pos fits]
    · rw [List.countP_cons, if_neg fits]
      exact ih

theorem decode_of_system (fits : system.pattern.fits word = true)
    (others : ∀ form ∈ proper, form.pattern.fits word = false) :
    Instruction.decode word = .sys word.address := by
  have clear : word ≠ ⟨0x0, 0x0, 0xE, 0x0⟩ := by
    rintro rfl
    exact absurd (others proper[0] (List.getElem_mem _)) (by decide)
  have ret : word ≠ ⟨0x0, 0x0, 0xE, 0xE⟩ := by
    rintro rfl
    exact absurd (others proper[1] (List.getElem_mem _)) (by decide)
  have system : Instruction.decode word = Instruction.decodeSystem word := by
    rw [← Pattern.fill_of_fits fits]
    rfl
  have spelled := Instruction.encode_decode word
  rw [system] at spelled ⊢
  unfold Instruction.decodeSystem at spelled ⊢
  split
  next first =>
    rw [if_pos first] at spelled
    exact absurd spelled.symm clear
  next first =>
    rw [if_neg first] at spelled
    split
    next second =>
      rw [if_pos second] at spelled
      exact absurd spelled.symm ret
    next => rfl

theorem decode_eq_unmapped_iff :
    Instruction.decode word = .unmapped word ↔
      ∀ form ∈ system :: proper, form.pattern.fits word = false := by
  have rowless : word.row = none ↔
      ∀ pattern ∈ table.map (·.pattern), pattern.fits word = false := by
    simp [Opcode.row, List.find?_eq_none]
  have all : Instruction.decode word = .unmapped word ↔ word.row = none :=
    ⟨Opcode.row_of_unmapped, Opcode.decode_of_rowless⟩
  rw [all, rowless, patterns_eq, List.forall_mem_map]
  simp only [List.perm_middle.mem_iff, List.take_append_drop]

end Form

namespace Instruction

/-- Decoding depends on the low sixteen bits of a number and loses none of them: the fields are the
digits of the word, the operation is that of the form the word fits, and the assembler text of no
other word is the same. -/
theorem decode_unambiguous (a b : Int) :
    let word := Opcode.ofInt a
    (word = Opcode.ofInt b ↔ a % 65536 = b % 65536) ∧
    ((word.kind * 4096 + word.x * 256 + word.y * 16 + word.n : Nat) = a % 65536 ∧
      (word.toNat : Int) = a % 65536 ∧ word.byte.toNat = 16 * word.y + word.n ∧
      word.address.val = 256 * word.x + word.byte.toNat) ∧
    (Form.proper.countP (·.pattern.fits word) ≤ 1 ∧
      (∀ form ∈ Form.proper, form.pattern.fits word = true → decode word = form.operation word) ∧
      (Form.system.pattern.fits word = true →
        (∀ form ∈ Form.proper, form.pattern.fits word = false) →
          decode word = .sys word.address) ∧
      (decode word = .unmapped word ↔
        ∀ form ∈ Form.system :: Form.proper, form.pattern.fits word = false)) ∧
    ((decode word).mnemonic = (decode (Opcode.ofInt b)).mnemonic ↔ a % 65536 = b % 65536) := by
  intro word
  have value (n : Int) : ((Opcode.ofInt n).toNat : Int) = n % 65536 := by
    rw [Opcode.ofInt, Opcode.toNat_ofNat]
    omega
  have same : word = Opcode.ofInt b ↔ a % 65536 = b % 65536 := by
    rw [← value a, ← value b, Int.natCast_inj]
    exact ⟨congrArg Opcode.toNat, fun same => by
      rw [← Opcode.ofNat_toNat word, same, Opcode.ofNat_toNat]⟩
  have whole : word.kind * 4096 + word.x * 256 + word.y * 16 + word.n = word.toNat := by
    unfold Opcode.toNat
    omega
  have byte := word.toNat_byte
  have address : word.address.val = 256 * word.x + word.byte.toNat := by
    rw [byte, word.address_val, Nat.add_assoc]
  refine ⟨same, ⟨?_, value a, byte, address⟩, ⟨Form.countP_proper_le, ?_, ?_, ?_⟩, ?_⟩
  · rw [whole]
    exact value a
  · exact fun form => Form.decode_of_proper
  · exact Form.decode_of_system
  · exact Form.decode_eq_unmapped_iff
  · -- Each step from the number to the text loses nothing.
    rw [mnemonic_injective.eq_iff, ← same]
    refine ⟨fun decoded => ?_, fun same => congrArg decode same⟩
    rw [← encode_decode word, decoded, encode_decode]

theorem decode_unambiguous_negative :
    Form.proper[13].pattern.fits (Opcode.ofInt (-32476)) = true ∧
      decode (Opcode.ofInt (-32476)) = .add 0x1 0x2 ∧
      (decode (Opcode.ofInt (-32476))).mnemonic = (decode (Opcode.ofInt 0x8124)).mnemonic ∧
      Form.system.pattern.fits (Opcode.ofInt 0x123) = true ∧
      (∀ form ∈ Form.proper, form.pattern.fits (Opcode.ofInt 0x123) = false) ∧
      decode (Opcode.ofInt 0x123) = .sys 0x123 := by
  obtain ⟨-, -, ⟨-, proper, -, -⟩, text⟩ := decode_unambiguous (-32476) 0x8124
  obtain ⟨-, -, ⟨-, -, system, -⟩, -⟩ := decode_unambiguous 0x123 0
  have fits : Form.proper[13].pattern.fits (Opcode.ofInt (-32476)) = true := by decide
  have calls : Form.system.pattern.fits (Opcode.ofInt 0x123) = true := by decide
  have others : ∀ form ∈ Form.proper, form.pattern.fits (Opcode.ofInt 0x123) = false := by decide
  exact ⟨fits, proper _ (List.getElem_mem _) fits, text.2 (by decide), calls, others,
    system calls others⟩

end Instruction

end Chip8
