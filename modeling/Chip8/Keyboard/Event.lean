import Chip8.Keypad

namespace Chip8

/-- A key of a window: its code, by which it is known, and the name that the window has for it. -/
structure WindowKey where
  code : Int
  name : String
deriving DecidableEq, Repr, Inhabited

inductive KeyEvent where
  | down (key : WindowKey)
  | up (key : WindowKey)
  | quit
  | other
deriving DecidableEq, Repr, Inhabited

namespace KeyEvent

def escapeCode : Int := 27

def asksToQuit : KeyEvent → Bool
  | up key => key.code == escapeCode
  | quit => true
  | _ => false

def apply (keypad : Keypad) : KeyEvent → Keypad
  | down key => keypad.set key.name true
  | up key => if key.code = escapeCode then keypad else keypad.set key.name false
  | _ => keypad

/-- Works through all events that are pending, also those after a wish to quit. -/
def applyAll (events : List KeyEvent) (keypad : Keypad) : Bool × Keypad :=
  (events.any asksToQuit, events.foldl apply keypad)

end KeyEvent

end Chip8
