namespace Chip8.Text

/-- The lower-case digit of a value below sixteen; larger values are taken modulo sixteen. -/
def hexDigit (value : Nat) : Char :=
  if value % 16 < 10 then Char.ofNat (48 + value % 16) else Char.ofNat (87 + value % 16)

def hexDigits (value : Nat) : List Char :=
  if value < 16 then [hexDigit value] else hexDigits (value / 16) ++ [hexDigit value]
termination_by value
decreasing_by omega

def zeroFilled (width : Nat) (digits : List Char) : List Char :=
  List.replicate (width - digits.length) '0' ++ digits

def hexField (width : Nat) (value : Int) : List Char :=
  if value < 0 then '-' :: zeroFilled (width - 1) (hexDigits value.natAbs)
  else zeroFilled width (hexDigits value.natAbs)

def hex (width : Nat) (value : Int) : String :=
  String.ofList (hexField width value)

def hexByte (byte : UInt8) : String :=
  hex 2 byte.toNat

theorem hexDigits_ne_nil (value : Nat) : hexDigits value ≠ [] := by
  unfold hexDigits
  split <;> simp

theorem length_zeroFilled (width : Nat) (digits : List Char) :
    (zeroFilled width digits).length = max width digits.length := by
  simp only [zeroFilled, List.length_append, List.length_replicate]
  omega

theorem length_hexDigits_le {value width : Nat} (hwidth : 0 < width)
    (h : value < Nat.pow 16 width) :
    (hexDigits value).length ≤ width := by
  induction width generalizing value with
  | zero => omega
  | succ width ih =>
    change value < Nat.pow 16 width * 16 at h
    unfold hexDigits
    split
    next => simp
    next large =>
      have positive : 0 < width := by
        refine Nat.pos_of_ne_zero fun zero => ?_
        subst zero
        change value < 1 * 16 at h
        omega
      have smaller : value / 16 < Nat.pow 16 width := by omega
      simpa using ih positive smaller

theorem length_hexField {value width : Nat} (hwidth : 0 < width) (h : value < Nat.pow 16 width) :
    (hexField width value).length = width := by
  have fits := length_hexDigits_le hwidth h
  have positive : ¬ (value : Int) < 0 := by omega
  simp only [hexField, positive, ↓reduceIte, length_zeroFilled, Int.natAbs_natCast]
  omega

end Chip8.Text
