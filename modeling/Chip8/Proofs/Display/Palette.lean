import Chip8.Launch.Plan
import Chip8.Proofs.Text.Fields
import Chip8.Proofs.Text.Numeral
import Mathlib.Data.List.Forall2

namespace Chip8

namespace Palette

open Text (fields)
open Text.Numeral

def Pair (high low : Char) (byte : UInt8) : Prop :=
  ∃ first second, IsDigit high first ∧ IsDigit low second ∧ byte.toNat = 16 * first + second

/-- A colour in six hexadecimal digits, two for each of its parts. -/
inductive SixDigits (field : String) (colour : Colour) : Prop where
  | mk {a b c d e f : Char} (six : field.toList = [a, b, c, d, e, f]) (red : Pair a b colour.red)
      (green : Pair c d colour.green) (blue : Pair e f colour.blue)

/-- A palette of one or two fields, with `Reads` telling which colour a field is. -/
inductive Written (Reads : String → Colour → Prop) : String → Palette → Prop where
  | one {field : String} {background : Colour} (whole : ',' ∉ field.toList)
      (reads : Reads field background) : Written Reads field ⟨background, standard.foreground⟩
  | two {first second : String} {background foreground : Colour} (whole : ',' ∉ first.toList)
      (wholeSecond : ',' ∉ second.toList) (reads : Reads first background)
      (readsSecond : Reads second foreground) :
      Written Reads (first ++ "," ++ second) ⟨background, foreground⟩

def Spells (field : String) (value : Int) : Prop :=
  field.length = 6 ∧ ∃ plain, plain? field.toList = some plain ∧ Hexadecimal plain value

def number (colour : Colour) : Nat :=
  65536 * colour.red.toNat + 256 * colour.green.toNat + colour.blue.toNat

def Taken (field : String) (colour : Colour) : Prop :=
  Spells field (number colour)

/-- One or two fields that are all read as numbers, although not all of them are six digits. -/
def Lax (text : String) : Prop :=
  (fields text).length ≤ 2 ∧ (∀ field ∈ fields text, ∃ value, Spells field value) ∧
    ∃ field ∈ fields text, ∀ colour, ¬ SixDigits field colour

def Negative (text : String) : Prop :=
  ∃ field ∈ fields text, ∃ value < 0, Spells field value

def refusals : List Fault := [.paletteTooLong, .colourLength, .colourDigits]

section Mapping

variable {α β : Type} {f : α → Except Fault β}

theorem mapM_eq_ok_iff {values : List α} {results : List β} :
    values.mapM f = .ok results ↔
      List.Forall₂ (fun value result => f value = .ok result) values results := by
  induction values generalizing results with
  | nil => cases results <;> simp [pure, Except.pure]
  | cons value values ih =>
    rw [List.mapM_cons]
    cases first : f value with
    | error fault => cases results <;> simp [bind, Except.bind, first]
    | ok result =>
      cases others : values.mapM f with
      | error fault => cases results <;> simp [bind, Except.bind, ← ih, others, first]
      | ok _ => cases results <;> simp [bind, Except.bind, pure, Except.pure, ← ih, others, first]

theorem error_of_mapM {values : List α} {fault : Fault} (failed : values.mapM f = .error fault) :
    ∃ value ∈ values, f value = .error fault := by
  induction values with
  | nil => cases failed
  | cons value values ih =>
    rw [List.mapM_cons] at failed
    cases first : f value with
    | error other =>
      rw [first] at failed
      cases failed
      exact ⟨value, .head _, first⟩
    | ok result =>
      cases others : values.mapM f with
      | error other =>
        rw [first, others] at failed
        cases failed
        obtain ⟨later, member, fails⟩ := ih others
        exact ⟨later, .tail _ member, fails⟩
      | ok results =>
        rw [first, others] at failed
        cases failed

theorem related_of_mem {γ δ : Type} {R : γ → δ → Prop} {left : List γ} {right : List δ}
    (related : List.Forall₂ R left right) {x : γ} (member : x ∈ left) : ∃ y ∈ right, R x y := by
  induction related with
  | nil => cases member
  | cons first _ ih =>
    rcases List.mem_cons.1 member with rfl | later
    · exact ⟨_, .head _, first⟩
    · obtain ⟨y, found, related⟩ := ih later
      exact ⟨y, .tail _ found, related⟩

theorem result_of_mapM {values : List α} {results : List β} (mapped : values.mapM f = .ok results)
    {value : α} (member : value ∈ values) : ∃ result ∈ results, f value = .ok result :=
  related_of_mem (mapM_eq_ok_iff.1 mapped) member

theorem source_of_mapM {values : List α} {results : List β} (mapped : values.mapM f = .ok results)
    {result : β} (member : result ∈ results) : ∃ value ∈ values, f value = .ok result :=
  related_of_mem (List.Forall₂.flip (R := flip _) (mapM_eq_ok_iff.1 mapped)) member

end Mapping

variable {field text : String} {value : Int} {colour : Colour} {palette : Palette} {fault : Fault}

theorem readField_eq_ok_iff : readField field = .ok value ↔ Spells field value := by
  unfold readField Spells
  rw [← hexadecimal?_eq_some_iff]
  split
  · rename_i short
    simp [short]
  · rename_i six
    cases hexadecimal? field <;> simp [not_not.1 six]

theorem readField_error (failed : readField field = .error fault) :
    fault = .colourLength ∨ fault = .colourDigits := by
  unfold readField at failed
  split at failed
  · cases failed
    exact .inl rfl
  · split at failed <;> cases failed
    exact .inr rfl

theorem Spells.natAbs_lt (spells : Spells field value) : value.natAbs < 16 ^ 6 := by
  obtain ⟨six, plain, plainly, spelt⟩ := spells
  have small := spelt.natAbs_lt
  rwa [length_plain? plainly, String.length_toList, six] at small

theorem colourOf_eq_ok_iff (small : value.natAbs < 16 ^ 6) :
    colourOf value = .ok colour ↔ value = number colour := by
  unfold colourOf number
  split
  · rename_i negative
    have other : value ≠ (number colour : Int) := by omega
    exact ⟨fun taken => (nomatch taken), fun same => absurd same other⟩
  · rename_i positive
    obtain ⟨value, rfl⟩ := Int.eq_ofNat_of_zero_le (Int.not_lt.1 positive)
    obtain ⟨red, green, blue⟩ := colour
    simp only [Except.ok.injEq, Colour.mk.injEq, ← UInt8.toNat_inj, UInt8.toNat_ofNat',
      Int.toNat_natCast, Int.natAbs_natCast] at small ⊢
    have := red.toNat_lt
    have := green.toNat_lt
    have := blue.toNat_lt
    omega

theorem colourOf_error (failed : colourOf value = .error fault) :
    fault = .colourNegative ∧ value < 0 := by
  unfold colourOf at failed
  split at failed <;> cases failed
  exact ⟨rfl, ‹_›⟩

theorem SixDigits.isDigit (digits : SixDigits field colour) :
    ∀ c ∈ field.toList, ∃ value, IsDigit c value := by
  obtain ⟨six, ⟨_, _, isA, isB, _⟩, ⟨_, _, isC, isD, _⟩, ⟨_, _, isE, isF, _⟩⟩ := digits
  intro c member
  rw [six] at member
  simp only [List.mem_cons, List.not_mem_nil, or_false] at member
  rcases member with same | same | same | same | same | same <;> subst same
  all_goals exact ⟨_, ‹_›⟩

theorem SixDigits.taken (digits : SixDigits field colour) : Taken field colour := by
  have small : ∀ c ∈ field.toList, c.toNat < 128 := by
    intro c member
    obtain ⟨value, digit⟩ := digits.isDigit c member
    exact digit.small.1
  obtain @⟨a, b, c, d, e, f, six, ⟨a', b', isA, isB, red⟩, ⟨c', d', isC, isD, green⟩,
    ⟨e', f', isE, isF, blue⟩⟩ := digits
  have spelt : Spelt 16 false [a, b, c, d, e, f] [a', b', c', d', e', f'] :=
    .digit (digitValue?_eq_some_iff.2 isA) <| .digit (digitValue?_eq_some_iff.2 isB) <|
    .digit (digitValue?_eq_some_iff.2 isC) <| .digit (digitValue?_eq_some_iff.2 isD) <|
    .digit (digitValue?_eq_some_iff.2 isE) <| .digit (digitValue?_eq_some_iff.2 isF) .stop
  have same : worth 16 0 [a', b', c', d', e', f'] = number colour := by
    simp only [worth, List.foldl_cons, List.foldl_nil, number, red, green, blue]
    omega
  refine ⟨by rw [← String.length_toList, six]; rfl, field.toList, plain?_of_small small, ?_⟩
  rw [six, ← same]
  exact .of_spelt spelt

def ofColours (colours : List Colour) : Palette where
  background := colours.getD 0 standard.background
  foreground := colours.getD 1 standard.foreground

theorem written_iff {Reads : String → Colour → Prop} :
    Written Reads text palette ↔ (fields text).length ≤ 2 ∧
      ∃ colours, List.Forall₂ Reads (fields text) colours ∧ ofColours colours = palette := by
  constructor
  · rintro (⟨whole, reads⟩ | @⟨first, second, _, _, whole, wholeSecond, reads, readsSecond⟩)
    · have cut : fields text = [text] := by
        simp [Text.fields_eq_iff, whole]
      rw [cut]
      exact ⟨Nat.le_succ 1, [_], .cons reads .nil, rfl⟩
    · have cut : fields (first ++ "," ++ second) = [first, second] := by
        simp [Text.fields_eq_iff, whole, wholeSecond, String.append_assoc]
      rw [cut]
      exact ⟨Nat.le_refl 2, [_, _], .cons reads (.cons readsSecond .nil), rfl⟩
  · rintro ⟨short, colours, reads, rfl⟩
    obtain ⟨filled, whole, together⟩ := Text.fields_eq_iff.1 (rfl : fields text = fields text)
    generalize fields text = parts at short reads filled whole together
    subst together
    cases reads with
    | nil => exact absurd rfl filled
    | cons reads others =>
      cases others with
      | nil => exact .one (whole _ (.head _)) reads
      | cons readsSecond others =>
        cases others with
        | nil => exact .two (whole _ (.head _)) (whole _ (.tail _ (.head _))) reads readsSecond
        | cons _ _ => simp at short

theorem Written.mono {Reads Reads' : String → Colour → Prop}
    (also : ∀ field colour, Reads field colour → Reads' field colour)
    (written : Written Reads text palette) : Written Reads' text palette := by
  cases written with
  | one whole reads => exact .one whole (also _ _ reads)
  | two whole wholeSecond reads readsSecond =>
    exact .two whole wholeSecond (also _ _ reads) (also _ _ readsSecond)

theorem taken_iff :
    Taken field colour ↔ ∃ value, readField field = .ok value ∧ colourOf value = .ok colour := by
  constructor
  · intro taken
    exact ⟨number colour, readField_eq_ok_iff.2 taken, (colourOf_eq_ok_iff taken.natAbs_lt).2 rfl⟩
  · rintro ⟨value, read, coloured⟩
    have spells := readField_eq_ok_iff.1 read
    rw [colourOf_eq_ok_iff spells.natAbs_lt] at coloured
    rwa [coloured] at spells

theorem forall₂_taken_iff {parts : List String} {colours : List Colour} :
    List.Forall₂ Taken parts colours ↔
      ∃ values, parts.mapM readField = .ok values ∧ values.mapM colourOf = .ok colours := by
  simp only [mapM_eq_ok_iff]
  constructor
  · intro taken
    induction taken with
    | nil => exact ⟨[], .nil, .nil⟩
    | cons first _ ih =>
      obtain ⟨value, read, coloured⟩ := taken_iff.1 first
      obtain ⟨values, reads, colours⟩ := ih
      exact ⟨value :: values, .cons read reads, .cons coloured colours⟩
  · rintro ⟨values, reads, coloured⟩
    induction reads generalizing colours with
    | nil => cases coloured; exact .nil
    | cons read _ ih =>
      cases coloured with
      | cons first others => exact .cons (taken_iff.2 ⟨_, read, first⟩) (ih others)

theorem parse_eq_ok_iff : parse text = .ok palette ↔ Written Taken text palette := by
  simp only [written_iff, forall₂_taken_iff]
  unfold parse
  by_cases long : (fields text).length > 2
  · simp only [if_pos long]
    exact ⟨fun parsed => (nomatch parsed), fun short => absurd short.1 (Nat.not_le.2 long)⟩
  · simp only [if_neg long, Nat.not_lt.1 long, true_and]
    cases (fields text).mapM readField with
    | error _ => simp [bind, Except.bind]
    | ok values =>
      simp only [bind, Except.bind, Except.ok.injEq, exists_eq_left']
      cases values.mapM colourOf with
      | error _ => simp
      | ok colours => simp [pure, Except.pure, ofColours]

theorem parse_error (failed : parse text = .error fault) :
    fault ∈ refusals ∧
        ((fields text).length ≤ 2 → ∃ field ∈ fields text, ∀ value, ¬ Spells field value) ∨
      fault = .colourNegative ∧ (fields text).length ≤ 2 ∧
        (∀ field ∈ fields text, ∃ value, Spells field value) ∧ Negative text := by
  unfold parse at failed
  by_cases long : (fields text).length > 2
  · simp only [if_pos long] at failed
    cases failed
    exact .inl ⟨by decide, fun short => absurd short (Nat.not_le.2 long)⟩
  · simp only [if_neg long] at failed
    cases read : (fields text).mapM readField with
    | error other =>
      rw [read] at failed
      cases failed
      obtain ⟨field, member, fails⟩ := error_of_mapM read
      refine .inl ⟨?_, fun _ => ⟨field, member, fun value spells => ?_⟩⟩
      · rcases readField_error fails with rfl | rfl <;> decide
      · rw [← readField_eq_ok_iff, fails] at spells
        cases spells
    | ok values =>
      cases coloured : values.mapM colourOf with
      | ok colours =>
        rw [read] at failed
        simp [bind, Except.bind, coloured, pure, Except.pure] at failed
      | error other =>
        rw [read] at failed
        simp only [bind, Except.bind, coloured] at failed
        cases failed
        obtain ⟨value, member, fails⟩ := error_of_mapM coloured
        obtain ⟨rfl, negative⟩ := colourOf_error fails
        obtain ⟨field, source, readsNegative⟩ := source_of_mapM read member
        refine .inr ⟨rfl, Nat.not_lt.1 long, fun field member => ?_,
          field, source, value, negative, readField_eq_ok_iff.1 readsNegative⟩
        obtain ⟨value, -, reads⟩ := result_of_mapM read member
        exact ⟨value, readField_eq_ok_iff.1 reads⟩

theorem Written.isDigit (written : Written SixDigits text palette) :
    ∀ c ∈ text.toList, c = ',' ∨ ∃ value, IsDigit c value := by
  intro c member
  cases written with
  | one _ digits => exact .inr (digits.isDigit c member)
  | two _ _ first second =>
    simp only [String.toList_append, List.mem_append, or_assoc] at member
    rcases member with inFirst | comma | inSecond
    · exact .inr (first.isDigit c inFirst)
    · exact .inl (List.mem_singleton.1 comma)
    · exact .inr (second.isDigit c inSecond)

theorem Written.not_lax (written : Written SixDigits text palette) : ¬ Lax text := by
  obtain ⟨-, colours, digits, -⟩ := written_iff.1 written
  rintro ⟨-, -, field, member, loose⟩
  obtain ⟨colour, -, six⟩ := related_of_mem digits member
  exact loose colour six

theorem written_of_not_lax (strict : ¬ Lax text) (short : (fields text).length ≤ 2)
    (spelt : ∀ field ∈ fields text, ∃ value, Spells field value) :
    ∃ palette, Written SixDigits text palette := by
  have digits : ∀ field ∈ fields text, ∃ colour, SixDigits field colour := by
    intro field member
    by_contra loose
    exact strict ⟨short, spelt, field, member, not_exists.1 loose⟩
  obtain ⟨colours, all⟩ : ∃ colours, List.Forall₂ SixDigits (fields text) colours := by
    generalize fields text = parts at digits
    induction parts with
    | nil => exact ⟨[], .nil⟩
    | cons field parts ih =>
      obtain ⟨colour, first⟩ := digits field (.head _)
      obtain ⟨colours, others⟩ := ih fun other member => digits other (.tail _ member)
      exact ⟨colour :: colours, .cons first others⟩
  exact ⟨_, written_iff.2 ⟨short, colours, all, rfl⟩⟩

theorem Written.spelt (written : Written Taken text palette) :
    (fields text).length ≤ 2 ∧ ∀ field ∈ fields text, ∃ value, 0 ≤ value ∧ Spells field value := by
  obtain ⟨short, colours, taken, -⟩ := written_iff.1 written
  refine ⟨short, fun field member => ?_⟩
  obtain ⟨colour, -, spells⟩ := related_of_mem taken member
  exact ⟨number colour, Int.natCast_nonneg _, spells⟩

theorem Spells.unique {other : Int} (spells : Spells field value) (also : Spells field other) :
    value = other := by
  rw [← readField_eq_ok_iff] at spells also
  exact Except.ok.inj (spells.symm.trans also)

theorem parse_of_written (written : Written SixDigits text palette) : parse text = .ok palette :=
  parse_eq_ok_iff.2 (written.mono fun _ _ => SixDigits.taken)

theorem parse_refuses (unwritten : ∀ palette, ¬ Written SixDigits text palette)
    (strict : ¬ Lax text) : ∃ fault ∈ refusals, parse text = .error fault := by
  cases parsed : parse text with
  | ok palette =>
    obtain ⟨short, spelt⟩ := (parse_eq_ok_iff.1 parsed).spelt
    obtain ⟨palette, written⟩ := written_of_not_lax strict short
      fun field member => (spelt field member).imp fun _ => And.right
    exact absurd written (unwritten palette)
  | error fault =>
    rcases parse_error parsed with ⟨refusal, -⟩ | ⟨-, short, spelt, -⟩
    · exact ⟨fault, refusal, rfl⟩
    · obtain ⟨palette, written⟩ := written_of_not_lax strict short spelt
      exact absurd written (unwritten palette)

theorem parse_of_lax (lax : Lax text) :
    (Negative text ∧ parse text = .error .colourNegative) ∨
      ¬ Negative text ∧ ∃ palette, Written Taken text palette ∧ parse text = .ok palette := by
  obtain ⟨short, spelt, -⟩ := lax
  cases parsed : parse text with
  | ok palette =>
    have written := parse_eq_ok_iff.1 parsed
    refine .inr ⟨?_, palette, written, rfl⟩
    rintro ⟨field, member, value, negative, spells⟩
    obtain ⟨other, positive, also⟩ := written.spelt.2 field member
    exact absurd positive (Int.not_le.2 (spells.unique also ▸ negative))
  | error fault =>
    rcases parse_error parsed with ⟨-, unspelt⟩ | ⟨rfl, -, -, negative⟩
    · obtain ⟨field, member, unread⟩ := unspelt short
      obtain ⟨value, spells⟩ := spelt field member
      exact absurd spells (unread value)
    · exact .inl ⟨negative, rfl⟩

end Palette

namespace Launch

open Palette Text.Numeral

section Palettes

variable {opening : Opening} {scale : Int} {text : String}

theorem Opening.display_of_palette (window : opening.kind = .window)
    (sized : opening.scaleGiven = .value scale) (given : opening.palette = some (.value text))
    (script : Script) :
    opening.display script =
      (parse text).map fun palette => .window (Window.new scale palette) := by
  simp only [Opening.display, window, sized, given, Window.width, ofOption, bind, Except.bind]
  cases parse text <;> rfl

end Palettes

def windowWith (text : String) : Opening where
  kind := .window
  scale := none
  palette := some (.value text)
  cursorMode := none

/-- A window whose palette is written in one or two fields of six hexadecimal digits has it as it is
written, and any other palette is refused, but for those that are lax. Of these, the negative ones
fail for a reason that is none of the refusals, and the others are taken for colours. -/
theorem display_palette (opening : Opening) (script : Script) (scale : Int) (text : String)
    (window : opening.kind = .window) (sized : opening.scaleGiven = .value scale)
    (given : opening.palette = some (.value text)) :
    (∀ palette, Written SixDigits text palette →
        ¬ Lax text ∧ opening.display script = .ok (.window (Window.new scale palette))) ∧
      ((∀ palette, ¬ Written SixDigits text palette) → ¬ Lax text →
        ∃ fault ∈ refusals, opening.display script = .error fault) ∧
      (Lax text →
        (Negative text ∧ opening.display script = .error .colourNegative) ∨
          ¬ Negative text ∧ ∃ palette, Written Taken text palette ∧
            opening.display script = .ok (.window (Window.new scale palette))) := by
  rw [Opening.display_of_palette window sized given]
  refine ⟨fun palette written => ⟨written.not_lax, ?_⟩, fun unwritten strict => ?_, fun lax => ?_⟩
  · rw [parse_of_written written]
    rfl
  · obtain ⟨fault, refusal, refused⟩ := parse_refuses unwritten strict
    exact ⟨fault, refusal, by rw [refused]; rfl⟩
  · rcases parse_of_lax lax with ⟨negative, failed⟩ | ⟨positive, palette, written, parsed⟩
    · exact .inl ⟨negative, by rw [failed]; rfl⟩
    · exact .inr ⟨positive, palette, written, by rw [parsed]; rfl⟩

theorem display_palette_pair :
    (windowWith ("0A1b2C" ++ "," ++ "FFFFFF")).kind = .window ∧
      (windowWith ("0A1b2C" ++ "," ++ "FFFFFF")).display {} =
        .ok (.window (Window.new 640 ⟨⟨0x0A, 0x1B, 0x2C⟩, ⟨0xFF, 0xFF, 0xFF⟩⟩)) := by
  have background : SixDigits "0A1b2C" ⟨0x0A, 0x1B, 0x2C⟩ :=
    .mk rfl ⟨0, 10, by decide, by decide, rfl⟩ ⟨1, 11, by decide, by decide, rfl⟩
      ⟨2, 12, by decide, by decide, rfl⟩
  have foreground : SixDigits "FFFFFF" ⟨0xFF, 0xFF, 0xFF⟩ :=
    have pair : Pair 'F' 'F' 0xFF := ⟨15, 15, by decide, by decide, rfl⟩
    .mk rfl pair pair pair
  have written := Written.two (by decide) (by decide) background foreground
  exact ⟨rfl, ((display_palette _ {} 640 _ rfl rfl rfl).1 _ written).2⟩

/-- A sign in the place of a digit is not refused. -/
theorem display_palette_signs :
    (∀ palette, ¬ Written SixDigits "-12345" palette) ∧
      (windowWith "-12345").display {} = .error .colourNegative ∧ .colourNegative ∉ refusals ∧
      (∀ palette, ¬ Written SixDigits "+12345" palette) ∧
      (windowWith "+12345").display {} =
        .ok (.window (Window.new 640 ⟨⟨0x01, 0x23, 0x45⟩, Palette.standard.foreground⟩)) := by
  have minus : ¬ ('-' = ',' ∨ ∃ value, IsDigit '-' value) := by
    simp only [← digitValue?_eq_some_iff, ← Option.isSome_iff_exists]
    decide
  have plus : ¬ ('+' = ',' ∨ ∃ value, IsDigit '+' value) := by
    simp only [← digitValue?_eq_some_iff, ← Option.isSome_iff_exists]
    decide
  refine ⟨fun palette written => ?_, by decide +kernel, by decide, fun palette written => ?_,
    by decide +kernel⟩
  · exact minus (written.isDigit '-' (by decide))
  · exact plus (written.isDigit '+' (by decide))

end Launch

end Chip8
