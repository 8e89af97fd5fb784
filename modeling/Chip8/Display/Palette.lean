import Chip8.HostCall
import Chip8.Text.Fields
import Chip8.Text.Numeral

namespace Chip8

structure Palette where
  background : Colour
  foreground : Colour
deriving DecidableEq, Repr, Inhabited

namespace Palette

def standard : Palette where
  background := ⟨0x21, 0x21, 0x25⟩
  foreground := ⟨0x27, 0xBF, 0x68⟩

def colour? (palette : Palette) (pixel : UInt8) : Option Colour :=
  match pixel.toNat with
  | 0 => some palette.background
  | 1 => some palette.foreground
  | _ => none

def readField (field : String) : Except Fault Int :=
  if field.length ≠ 6 then .error .colourLength
  else match Text.Numeral.hexadecimal? field with
    | some value => .ok value
    | none => .error .colourDigits

/-- The colour that a number stands for, red being its most significant part. -/
def colourOf (value : Int) : Except Fault Colour :=
  if value < 0 then .error .colourNegative
  else .ok ⟨UInt8.ofNat (value.toNat / 65536), UInt8.ofNat (value.toNat / 256),
    UInt8.ofNat value.toNat⟩

/-- Reads a palette. All fields are read before the first number is taken for a colour. -/
def parse (text : String) : Except Fault Palette := do
  let fields := Text.fields text
  if fields.length > 2 then throw .paletteTooLong
  let values ← fields.mapM readField
  let colours ← values.mapM colourOf
  return {
    background := colours.getD 0 standard.background
    foreground := colours.getD 1 standard.foreground }

def ofOption : Option (Given String) → Except Fault Palette
  | none => .ok standard
  | some .blank => .error .textBlank
  | some (.value text) => parse text

end Palette

end Chip8
