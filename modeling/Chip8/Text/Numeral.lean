import Chip8.Text.Fields

namespace Chip8.Text.Numeral

/-- The code points of the digit zero in every script; the other nine digits follow each of them. -/
def zeroCodes : List Nat :=
  [48, 1632, 1776, 1984, 2406, 2534, 2662, 2790, 2918, 3046, 3174, 3302, 3430, 3558, 3664, 3792,
   3872, 4160, 4240, 6112, 6160, 6470, 6608, 6784, 6800, 6992, 7088, 7232, 7248, 42528, 43216,
   43264, 43472, 43504, 43600, 44016, 65296, 66720, 68912, 69734, 69872, 69942, 70096, 70384,
   70736, 70864, 71248, 71360, 71472, 71904, 72016, 72784, 73040, 73120, 92768, 92864, 93008,
   120782, 120792, 120802, 120812, 120822, 123200, 123632, 125264, 130032]

def decimalValue? (c : Char) : Option Nat :=
  (zeroCodes.find? fun first => first ≤ c.toNat && c.toNat < first + 10).map (c.toNat - ·)

def digitValue? (base : Nat) (c : Char) : Option Nat :=
  let value :=
    if '0' ≤ c ∧ c ≤ '9' then c.toNat - 48
    else if 'a' ≤ c ∧ c ≤ 'f' then c.toNat - 87
    else if 'A' ≤ c ∧ c ≤ 'F' then c.toNat - 55
    else base
  if value < base then some value else none

def isPlainBlank (c : Char) : Bool :=
  c = ' ' || ('\t' ≤ c && c ≤ '\r')

def plainChar? (c : Char) : Option Char :=
  if c.toNat < 127 then some c
  else if isBlank c then some ' '
  else (decimalValue? c).map fun value => Char.ofNat (48 + value)

/-- A text in plain characters, if it can be spelt so; plain text stays as it is. -/
def plain? (chars : List Char) : Option (List Char) :=
  if chars.all (·.toNat < 128) then some chars else chars.mapM plainChar?

structure Digits where
  value : Nat
  count : Nat
  rest : List Char

/-- Reads digits. `afterDigit` says whether the last character read was one; an underscore needs a
digit on either side. -/
def scanDigits (base value count : Nat) (afterDigit : Bool) : List Char → Option Digits
  | [] => if afterDigit then some ⟨value, count, []⟩ else none
  | c :: rest =>
    match digitValue? base c with
    | some digit => scanDigits base (value * base + digit) (count + 1) true rest
    | none =>
      if !afterDigit then none
      else if c = '_' then scanDigits base value count false rest
      else some ⟨value, count, c :: rest⟩

def takeSign : List Char → Bool × List Char
  | '-' :: rest => (true, rest)
  | '+' :: rest => (false, rest)
  | chars => (false, chars)

def dropMark : List Char → List Char
  | '0' :: x :: '_' :: rest => if x = 'x' ∨ x = 'X' then rest else '0' :: x :: '_' :: rest
  | '0' :: x :: rest => if x = 'x' ∨ x = 'X' then rest else '0' :: x :: rest
  | chars => chars

/-- The number a text spells, with `mark` taking off what may precede its digits and at most
`limit` digits, if there is a limit. -/
def read? (base : Nat) (mark : List Char → List Char) (limit : Option Nat) (text : String) :
    Option Int := do
  let chars ← plain? text.toList
  let (negative, unsigned) := takeSign (chars.dropWhile isPlainBlank)
  let digits ← scanDigits base 0 0 false (mark unsigned)
  guard (digits.rest.all isPlainBlank)
  guard (limit.all (digits.count ≤ ·))
  return if negative then -(digits.value : Int) else digits.value

def maxDecimalDigits : Nat := 4300

def decimal? (text : String) : Option Int :=
  read? 10 id (some maxDecimalDigits) text

def hexadecimal? (text : String) : Option Int :=
  read? 16 dropMark none text

/-- Whether a text looks like a negative number: a minus, then digits, perhaps with a point among
them or in front. One line end may follow. -/
def looksNegative (text : String) : Bool :=
  let isDigit c := (decimalValue? c).isSome
  let body := match text.toList.reverse with
    | '\n' :: rest => rest.reverse
    | _ => text.toList
  match body with
  | '-' :: rest =>
    match rest.dropWhile isDigit with
    | [] => !rest.isEmpty
    | '.' :: fraction => !fraction.isEmpty && fraction.all isDigit
    | _ => false
  | _ => false

end Chip8.Text.Numeral
