import Chip8.Text.Numeral
import Mathlib.Algebra.Order.Ring.Int
import Mathlib.Data.List.TakeWhile

namespace Chip8.Text.Numeral

def IsDigit (c : Char) (value : Nat) : Prop :=
  "0123456789abcdef".toList[value]? = some c ∨ "0123456789ABCDEF".toList[value]? = some c

instance (c : Char) (value : Nat) : Decidable (IsDigit c value) :=
  inferInstanceAs (Decidable (_ ∨ _))

/-- Digits to the end of a text, of which there is at least one unless one stands before. A single
underscore may stand between two of them. -/
inductive Spelt (base : Nat) : Bool → List Char → List Nat → Prop where
  | stop : Spelt base true [] []
  | digit {after : Bool} {c : Char} {value : Nat} {chars : List Char} {values : List Nat}
      (read : digitValue? base c = some value) (rest : Spelt base true chars values) :
      Spelt base after (c :: chars) (value :: values)
  | underscore {chars : List Char} {values : List Nat} (rest : Spelt base false chars values) :
      Spelt base true ('_' :: chars) values

/-- What digits are worth after some that are worth `value`, more significant ones first. -/
def worth (base value : Nat) (values : List Nat) : Nat :=
  values.foldl (fun value digit => value * base + digit) value

def signs : List (List Char) := [[], ['+'], ['-']]

def marks : List (List Char) := [[], ['0', 'x'], ['0', 'X'], ['0', 'x', '_'], ['0', 'X', '_']]

inductive Hexadecimal : List Char → Int → Prop where
  | mk {before sign mark digits behind : List Char} {values : List Nat}
      (blank : ∀ c ∈ before, isPlainBlank c = true) (signed : sign ∈ signs) (marked : mark ∈ marks)
      (spelt : Spelt 16 false digits values) (blankBehind : ∀ c ∈ behind, isPlainBlank c = true) :
      Hexadecimal (before ++ (sign ++ (mark ++ (digits ++ behind))))
        (if sign = ['-'] then -(worth 16 0 values : Int) else worth 16 0 values)

variable {base : Nat} {chars rest : List Char} {values : List Nat} {after : Bool}

theorem digitValue?_underscore : digitValue? base '_' = none := by
  simp [digitValue?]

theorem scanDigits_of_spelt (spelt : Spelt base after chars values) (value count : Nat)
    (ended : ∀ c ∈ rest.head?, digitValue? base c = none ∧ c ≠ '_') :
    scanDigits base value count after (chars ++ rest) =
      some ⟨worth base value values, count + values.length, rest⟩ := by
  induction spelt generalizing value count with
  | stop =>
    cases rest with
    | nil => rfl
    | cons c rest =>
      obtain ⟨valueless, other⟩ := ended c rfl
      simp [scanDigits, valueless, other, worth]
  | digit read _ ih =>
    rw [List.cons_append, List.length_cons, scanDigits, read]
    refine (ih _ _).trans ?_
    rw [Nat.add_right_comm]
    rfl
  | underscore _ ih =>
    rw [List.cons_append, scanDigits, digitValue?_underscore]
    exact ih value count

theorem spelt_of_scanDigits {value count : Nat} {digits : Digits}
    (scanned : scanDigits base value count after chars = some digits) :
    ∃ read values, chars = read ++ digits.rest ∧ Spelt base after read values ∧
      digits.value = worth base value values := by
  induction chars generalizing value count after with
  | nil =>
    unfold scanDigits at scanned
    split at scanned
    · rename_i ended
      cases scanned
      subst ended
      exact ⟨[], [], rfl, .stop, rfl⟩
    · cases scanned
  | cons c chars ih =>
    unfold scanDigits at scanned
    split at scanned
    · rename_i digit found
      obtain ⟨read, values, same, spelt, worth⟩ := ih scanned
      exact ⟨c :: read, digit :: values, congrArg (c :: ·) same, .digit found spelt, worth⟩
    · split at scanned
      · cases scanned
      · rename_i begun
        obtain rfl : after = true := by simpa using begun
        split at scanned
        · rename_i underscore
          obtain ⟨read, values, same, spelt, worth⟩ := ih scanned
          subst underscore
          exact ⟨'_' :: read, values, congrArg ('_' :: ·) same, .underscore spelt, worth⟩
        · cases scanned
          exact ⟨[], [], rfl, .stop, rfl⟩

theorem takeSign_eq (chars : List Char) :
    ∃ sign ∈ signs, chars = sign ++ (takeSign chars).2 ∧
      (takeSign chars).1 = decide (sign = ['-']) := by
  unfold takeSign
  split
  · exact ⟨['-'], by decide, rfl, rfl⟩
  · exact ⟨['+'], by decide, rfl, rfl⟩
  · exact ⟨[], by decide, rfl, rfl⟩

theorem dropMark_eq (chars : List Char) : ∃ mark ∈ marks, chars = mark ++ dropMark chars := by
  unfold dropMark
  split
  · split
    · rename_i x rest marked
      rcases marked with rfl | rfl
      · exact ⟨['0', 'x', '_'], by decide, rfl⟩
      · exact ⟨['0', 'X', '_'], by decide, rfl⟩
    · exact ⟨[], by decide, rfl⟩
  · split
    · rename_i x rest _ marked
      rcases marked with rfl | rfl
      · exact ⟨['0', 'x'], by decide, rfl⟩
      · exact ⟨['0', 'X'], by decide, rfl⟩
    · exact ⟨[], by decide, rfl⟩
  · exact ⟨[], by decide, rfl⟩

theorem hexadecimal?_eq_some_iff_scan {text : String} {value : Int} :
    hexadecimal? text = some value ↔ ∃ plain digits, plain? text.toList = some plain ∧
      scanDigits 16 0 0 false (dropMark (takeSign (plain.dropWhile isPlainBlank)).2) = some digits ∧
      digits.rest.all isPlainBlank = true ∧
      (if (takeSign (plain.dropWhile isPlainBlank)).1 then -(digits.value : Int)
        else digits.value) = value := by
  constructor
  · intro read
    obtain ⟨plain, plainly, read⟩ := Option.bind_eq_some_iff.1 read
    obtain ⟨digits, scanned, read⟩ := Option.bind_eq_some_iff.1 read
    obtain ⟨_, blank, read⟩ := Option.bind_eq_some_iff.1 read
    exact ⟨plain, digits, plainly, scanned, (Option.guard_eq_some' _).1 blank, Option.some.inj read⟩
  · rintro ⟨plain, digits, plainly, scanned, blank, rfl⟩
    refine Option.bind_eq_some_iff.2 ⟨plain, plainly, ?_⟩
    refine Option.bind_eq_some_iff.2 ⟨digits, scanned, ?_⟩
    exact Option.bind_eq_some_iff.2 ⟨(), (Option.guard_eq_some' _).2 blank, rfl⟩

theorem le_iff_toNat_le (a b : Char) : a ≤ b ↔ a.toNat ≤ b.toNat := Iff.rfl

theorem codes_of_digitValue? {c : Char} {value : Nat} (read : digitValue? 16 c = some value) :
    48 ≤ c.toNat ∧ c.toNat ≤ 57 ∨ 97 ≤ c.toNat ∧ c.toNat ≤ 102 ∨
      65 ≤ c.toNat ∧ c.toNat ≤ 70 := by
  by_contra outside
  obtain ⟨digit, letter⟩ := not_or.1 outside
  obtain ⟨small, capital⟩ := not_or.1 letter
  simp [digitValue?, le_iff_toNat_le, digit, small, capital] at read

theorem digitValue?_of_blank {c : Char} (blank : isPlainBlank c = true) :
    digitValue? 16 c = none := by
  have low : c.toNat ≤ 32 := by
    simp only [isPlainBlank, Bool.or_eq_true, decide_eq_true_eq, Bool.and_eq_true,
      le_iff_toNat_le] at blank
    rcases blank with rfl | ⟨-, high⟩
    · decide
    · exact high.trans (by decide)
  refine Option.eq_none_iff_forall_ne_some.2 fun value read => ?_
  have := codes_of_digitValue? read
  omega

theorem spelt_begins {digits behind : List Char} (spelt : Spelt 16 false digits values)
    (blank : ∀ c ∈ behind, isPlainBlank c = true) :
    ∃ c rest, digits ++ behind = c :: rest ∧ (digitValue? 16 c).isSome ∧
      ∀ x ∈ rest.head?, x ≠ 'x' ∧ x ≠ 'X' := by
  cases spelt with
  | @digit _ c _ digits _ read after =>
    refine ⟨c, digits ++ behind, rfl, Option.isSome_of_eq_some read, fun x second => ?_⟩
    cases after with
    | stop =>
      have blank : isPlainBlank x = true := blank x (List.mem_of_mem_head? second)
      constructor <;> rintro rfl <;> exact absurd blank (by decide)
    | digit read _ =>
      obtain rfl : _ = x := Option.some.inj second
      constructor <;> rintro rfl <;> exact absurd read (by simp [digitValue?])
    | underscore _ =>
      obtain rfl : _ = x := Option.some.inj second
      decide

theorem dropMark_of_mark {mark : List Char} {c : Char} (marked : mark ∈ marks)
    (begun : c ≠ '_') (plain : ∀ x ∈ rest.head?, x ≠ 'x' ∧ x ≠ 'X') :
    dropMark (mark ++ c :: rest) = c :: rest := by
  simp only [marks, List.mem_cons, List.not_mem_nil, or_false] at marked
  rcases marked with rfl | rfl | rfl | rfl | rfl
  · cases rest with
    | nil => unfold dropMark; split <;> simp_all
    | cons x rest =>
      obtain ⟨small, capital⟩ := plain x rfl
      unfold dropMark
      split <;> simp_all
  · simp [dropMark, begun]
  · simp [dropMark, begun]
  · rfl
  · rfl

theorem takeSign_of_sign {sign : List Char} (signed : sign ∈ signs)
    (unsigned : ∀ c ∈ chars.head?, c ≠ '-' ∧ c ≠ '+') :
    takeSign (sign ++ chars) = (decide (sign = ['-']), chars) := by
  simp only [signs, List.mem_cons, List.not_mem_nil, or_false] at signed
  rcases signed with rfl | rfl | rfl
  · cases chars with
    | nil => rfl
    | cons c chars =>
      obtain ⟨minus, plus⟩ := unsigned c rfl
      simp [takeSign, minus, plus]
  · rfl
  · rfl

theorem head?_before {P : Char → Prop} {c : Char} {lead : List Char} (all : ∀ x ∈ lead, P x)
    (next : P c) : ∀ x ∈ (lead ++ c :: rest).head?, P x := by
  cases lead with
  | nil => rintro x ⟨⟩; exact next
  | cons first lead => rintro x ⟨⟩; exact all first (.head _)

theorem dropWhile_of_head {p : Char → Bool} (kept : ∀ c ∈ chars.head?, p c = false) :
    chars.dropWhile p = chars := by
  cases chars with
  | nil => rfl
  | cons c chars => exact List.dropWhile_cons_of_neg (by simp [kept c rfl])

theorem solid_of_sign : ∀ sign ∈ signs, ∀ c ∈ sign, isPlainBlank c = false := by
  simp [signs, isPlainBlank]

theorem solid_of_mark : ∀ mark ∈ marks, ∀ c ∈ mark,
    isPlainBlank c = false ∧ c ≠ '-' ∧ c ≠ '+' := by
  simp [marks, isPlainBlank]

theorem solid_of_digit {c : Char} (digit : (digitValue? 16 c).isSome) :
    isPlainBlank c = false ∧ c ≠ '-' ∧ c ≠ '+' ∧ c ≠ '_' := by
  refine ⟨?_, ?_, ?_, ?_⟩
  · refine Bool.eq_false_iff.2 fun blank => ?_
    simp [digitValue?_of_blank blank] at digit
  all_goals rintro rfl; exact absurd digit (by decide)

theorem hexadecimal?_eq_some_iff {text : String} {value : Int} :
    hexadecimal? text = some value ↔
      ∃ plain, plain? text.toList = some plain ∧ Hexadecimal plain value := by
  rw [hexadecimal?_eq_some_iff_scan]
  constructor
  · rintro ⟨plain, digits, plainly, scanned, blankBehind, rfl⟩
    refine ⟨plain, plainly, ?_⟩
    obtain ⟨sign, signed, cut, negative⟩ := takeSign_eq (plain.dropWhile isPlainBlank)
    obtain ⟨mark, marked, unmarked⟩ := dropMark_eq (takeSign (plain.dropWhile isPlainBlank)).2
    obtain ⟨read, values, split, spelt, worth⟩ := spelt_of_scanDigits scanned
    have whole : plain =
        plain.takeWhile isPlainBlank ++ (sign ++ (mark ++ (read ++ digits.rest))) := by
      rw [← split, ← unmarked, ← cut, List.takeWhile_append_dropWhile]
    have before : ∀ c ∈ plain.takeWhile isPlainBlank, isPlainBlank c = true :=
      fun c member => List.mem_takeWhile_imp member
    rw [negative, worth]
    simp only [decide_eq_true_eq]
    generalize plain.takeWhile isPlainBlank = blanks at whole before
    subst whole
    exact .mk before signed marked spelt (List.all_eq_true.1 blankBehind)
  · rintro ⟨_, plainly, @⟨before, sign, mark, digits, behind, values, blank, signed, marked, spelt,
      blankBehind⟩⟩
    obtain ⟨c, rest, begins, digit, second⟩ := spelt_begins spelt blankBehind
    -- The first digit is no blank, no sign and no underscore, and what follows it is no letter of a
    -- mark: so each part that stands before it is taken off whole, and no more than that.
    obtain ⟨solid, minus, plus, underscore⟩ := solid_of_digit digit
    have lead : ∀ c ∈ sign ++ mark, isPlainBlank c = false := by
      intro c member
      rcases List.mem_append.1 member with inSign | inMark
      · exact solid_of_sign sign signed c inSign
      · exact (solid_of_mark mark marked c inMark).1
    have dropped : (before ++ (sign ++ (mark ++ (digits ++ behind)))).dropWhile isPlainBlank =
        sign ++ (mark ++ (digits ++ behind)) := by
      rw [List.dropWhile_append_of_pos blank, begins, ← List.append_assoc]
      exact dropWhile_of_head (head?_before lead solid)
    have taken : takeSign (sign ++ (mark ++ (digits ++ behind))) =
        (decide (sign = ['-']), mark ++ (digits ++ behind)) := by
      rw [begins]
      exact takeSign_of_sign signed
        (head?_before (fun c member => (solid_of_mark mark marked c member).2) ⟨minus, plus⟩)
    have unmarked : dropMark (mark ++ (digits ++ behind)) = digits ++ behind := by
      rw [begins]
      exact dropMark_of_mark marked underscore second
    have ended : ∀ c ∈ behind.head?, digitValue? 16 c = none ∧ c ≠ '_' := by
      intro c first
      have blank := blankBehind c (List.mem_of_mem_head? first)
      refine ⟨digitValue?_of_blank blank, ?_⟩
      rintro rfl
      exact absurd blank (by decide)
    refine ⟨_, ⟨worth 16 0 values, 0 + values.length, behind⟩, plainly, ?_,
      List.all_eq_true.2 blankBehind, ?_⟩
    · rw [dropped, taken, unmarked]
      exact scanDigits_of_spelt spelt 0 0 ended
    · rw [dropped, taken]
      simp

theorem digitValue?_lt {c : Char} {value : Nat} (read : digitValue? base c = some value) :
    value < base := by
  simp only [digitValue?, Option.ite_none_right_eq_some, Option.some.injEq] at read
  exact read.2 ▸ read.1

theorem IsDigit.small {c : Char} {value : Nat} (digit : IsDigit c value) :
    c.toNat < 128 ∧ value < 16 := by
  have plain : ∀ c ∈ "0123456789abcdef".toList ++ "0123456789ABCDEF".toList,
      (decide (c.toNat < 128)) = true :=
    List.all_eq_true.1 (by decide)
  rcases digit with found | found
  · exact ⟨of_decide_eq_true (plain c (List.mem_append_left _ (List.mem_of_getElem? found))),
      (List.getElem?_eq_some_iff.1 found).1⟩
  · exact ⟨of_decide_eq_true (plain c (List.mem_append_right _ (List.mem_of_getElem? found))),
      (List.getElem?_eq_some_iff.1 found).1⟩

theorem digitValue?_eq_some_iff {c : Char} {value : Nat} :
    digitValue? 16 c = some value ↔ IsDigit c value := by
  have checked : ∀ n < 128, ∀ value < 16,
      digitValue? 16 (Char.ofNat n) = some value ↔ IsDigit (Char.ofNat n) value := by
    decide +kernel
  constructor
  · intro read
    have small := codes_of_digitValue? read
    have same := checked c.toNat (by omega) value (digitValue?_lt read)
    rw [Char.ofNat_toNat] at same
    exact same.1 read
  · intro digit
    have same := checked c.toNat digit.small.1 value digit.small.2
    rw [Char.ofNat_toNat] at same
    exact same.2 digit

theorem Spelt.worth_lt (spelt : Spelt base after chars values) (value : Nat) :
    worth base value values < (value + 1) * base ^ chars.length := by
  induction spelt generalizing value with
  | stop => simp [worth]
  | @digit _ _ digit chars values read _ ih =>
    have below := digitValue?_lt read
    calc worth base (value * base + digit) values
        < (value * base + digit + 1) * base ^ chars.length := ih _
      _ ≤ ((value + 1) * base) * base ^ chars.length := by
        refine Nat.mul_le_mul_right _ ?_
        rw [Nat.add_mul, Nat.one_mul]
        omega
      _ = (value + 1) * base ^ (chars.length + 1) := by
        rw [Nat.pow_succ', Nat.mul_assoc]
  | @underscore chars values rest ih =>
    have positive : 0 < base := by
      cases rest with
      | digit read _ => exact Nat.zero_lt_of_lt (digitValue?_lt read)
    exact (ih value).trans_le
      (Nat.mul_le_mul_left _ (Nat.pow_le_pow_right positive (Nat.le_succ _)))

theorem Hexadecimal.of_spelt {digits : List Char} (spelt : Spelt 16 false digits values) :
    Hexadecimal digits (worth 16 0 values) := by
  have bare : Hexadecimal ([] ++ ([] ++ ([] ++ (digits ++ []))))
      (if ([] : List Char) = ['-'] then -(worth 16 0 values : Int) else worth 16 0 values) :=
    .mk (by simp) (by decide) (by decide) spelt (by simp)
  simpa using bare

theorem Hexadecimal.natAbs_lt {value : Int} (spelt : Hexadecimal chars value) :
    value.natAbs < 16 ^ chars.length := by
  obtain @⟨before, sign, mark, digits, behind, values, -, -, -, spelt, -⟩ := spelt
  have small : worth 16 0 values < 16 ^ digits.length := by
    simpa using spelt.worth_lt 0
  have shorter : digits.length ≤ (before ++ (sign ++ (mark ++ (digits ++ behind)))).length := by
    simp only [List.length_append]
    omega
  have wider := small.trans_le (Nat.pow_le_pow_right (by decide) shorter)
  split
  · rwa [Int.natAbs_neg, Int.natAbs_natCast]
  · rwa [Int.natAbs_natCast]

theorem plain?_of_small (small : ∀ c ∈ chars, c.toNat < 128) : plain? chars = some chars := by
  unfold plain?
  rw [if_pos]
  simpa using small

theorem length_plain? {plain : List Char} (plainly : plain? chars = some plain) :
    plain.length = chars.length := by
  have length_mapM : ∀ {plain : List Char}, chars.mapM plainChar? = some plain →
      plain.length = chars.length := by
    clear plainly
    induction chars with
    | nil => rintro _ ⟨⟩; rfl
    | cons c chars ih =>
      intro plain found
      rw [List.mapM_cons] at found
      cases first : plainChar? c <;> cases rest : chars.mapM plainChar? <;>
        simp_all
      obtain rfl := found
      simp_all
  unfold plain? at plainly
  split at plainly
  · cases plainly
    rfl
  · exact length_mapM plainly

end Chip8.Text.Numeral
