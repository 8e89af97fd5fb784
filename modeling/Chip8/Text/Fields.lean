namespace Chip8.Text

def blankCodes : List Nat :=
  [0x09, 0x0A, 0x0B, 0x0C, 0x0D, 0x1C, 0x1D, 0x1E, 0x1F, 0x20, 0x85, 0xA0, 0x1680, 0x2000, 0x2001,
   0x2002, 0x2003, 0x2004, 0x2005, 0x2006, 0x2007, 0x2008, 0x2009, 0x200A, 0x2028, 0x2029, 0x202F,
   0x205F, 0x3000]

def isBlank (c : Char) : Bool :=
  blankCodes.contains c.toNat

def trimmed (chars : List Char) : List Char :=
  ((chars.dropWhile isBlank).reverse.dropWhile isBlank).reverse

def strip (text : String) : String :=
  String.ofList (trimmed text.toList)

def splitCommas : List Char → List (List Char)
  | [] => [[]]
  | c :: rest =>
    if c = ',' then [] :: splitCommas rest
    else match splitCommas rest with
      | [] => [[c]]
      | field :: fields => (c :: field) :: fields

def fields (text : String) : List String :=
  (splitCommas text.toList).map String.ofList

theorem splitCommas_ne_nil (chars : List Char) : splitCommas chars ≠ [] := by
  induction chars with
  | nil => simp [splitCommas]
  | cons c rest ih =>
    unfold splitCommas
    split
    next => simp
    next => split <;> simp

theorem length_splitCommas (chars : List Char) :
    (splitCommas chars).length = chars.count ',' + 1 := by
  induction chars with
  | nil => rfl
  | cons c rest ih =>
    unfold splitCommas
    split
    next h => simp [h, ih]
    next h =>
      split
      next empty => exact absurd empty (splitCommas_ne_nil rest)
      next field fields cut => simpa [cut, h] using ih

theorem length_fields (text : String) : (fields text).length = text.toList.count ',' + 1 := by
  simp [fields, length_splitCommas]

end Chip8.Text
