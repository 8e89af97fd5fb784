import Chip8.Opcode
import Chip8.Fault
import Chip8.Text.Fields
import Chip8.Text.Lowercase

namespace Chip8

abbrev Latch := Vector Bool 16

namespace Latch

def released : Latch :=
  Vector.replicate 16 false

/-- Whether a key is down; only the low four bits of its number count. -/
def isDown (latch : Latch) (key : Int) : Bool :=
  latch[(⟨(key % 16).toNat, by omega⟩ : Fin 16)]

def firstDown (latch : Latch) : Option Nibble :=
  (List.finRange 16).find? latch.get

end Latch

abbrev Keymap := List (String × Nibble)

namespace Keymap

/-- The layout of the left part of a keyboard with the digits in the top row. -/
def standard : String := "x,1,2,3,q,w,e,a,s,d,z,c,4,r,f,v"

def normal (field : String) : String :=
  Text.lower (Text.strip field)

def assign (earlier : Keymap) (key : Nat) : List String → Except Fault Keymap
  | [] => .ok earlier
  | field :: fields =>
    let symbol := normal field
    if symbol = "" then .error (.keyBlank key)
    else if (earlier.lookup symbol).isSome then .error .keyRepeated
    else assign (earlier ++ [(symbol, Fin.ofNat 16 key)]) (key + 1) fields

def parse (text : String) : Except Fault Keymap :=
  let fields := Text.fields text
  if fields.length ≠ 16 then .error .keyCount else assign [] 0 fields

def key? (keymap : Keymap) (symbol : String) : Option Nibble :=
  keymap.lookup (Text.lower symbol)

end Keymap

structure Keypad where
  keymap : Keymap
  latch : Latch
deriving DecidableEq, Inhabited

namespace Keypad

def ofKeymap (keymap : Keymap) : Keypad where
  keymap := keymap
  latch := Latch.released

def set (keypad : Keypad) (symbol : String) (down : Bool) : Keypad :=
  match keypad.keymap.key? symbol with
  | some key => { keypad with latch := keypad.latch.set key down }
  | none => keypad

def releaseAll (keypad : Keypad) : Keypad :=
  { keypad with latch := Latch.released }

end Keypad

end Chip8
