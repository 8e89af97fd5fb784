import Chip8.Fault

namespace Chip8

/-- What an option is given: a value, or nothing at all. The separator of a command line is never a
value, so an option that it is attached to is left blank. -/
inductive Given (α : Type) where
  | blank
  | value (value : α)
deriving DecidableEq, Repr, Inhabited

namespace Given

def isSet : Given Int → Bool
  | blank => false
  | value n => n != 0

end Given

structure Colour where
  red : UInt8
  green : UInt8
  blue : UInt8
deriving DecidableEq, Repr, Inhabited

/-- Calls to a window, to a terminal and to the sound mixer. Displays and speakers do not act
themselves; they answer with the calls that are to be made, in order, and an outer layer makes
them. -/
inductive HostCall where
  | windowOpened
  | windowCaption (text : String)
  | windowSized (width height : Int)
  | imageMade (pixels : Array Colour) (width height : Int)
  | imageScaled (width height : Int)
  /-- The scaled picture is laid onto the window from its top left corner on. -/
  | imageDrawn
  | windowFlipped
  | windowClosed
  | mixerPrepared (frequency : Nat)
  | mixerOpened
  | soundMade (wave : Array UInt8)
  | soundSoftened
  | soundStopped
  /-- The sound is played again and again for so many milliseconds. -/
  | soundPlayed (milliseconds : Nat)
  | mixerClosed
  | terminalOpened
  | cursorSet (mode : Option (Given Int))
  | echoOff
  | echoOn
  | cbreakOn
  | cbreakOff
  | terminalClosed
  | bellRung
  | padMade (rows columns : Int)
  | padWritten (row column : Int) (text : String) (reversed : Bool)
  /-- The pad is copied to the terminal from its top left corner on, up to a last row and column. -/
  | padCopied (row column : Int)
  | terminalCleared
  | terminalRefreshed
  | terminalResized (rows columns : Int)
  | readerStarted
  /-- The thread is asked to read no more keys. -/
  | readerStopped
deriving DecidableEq, Repr, Inhabited

/-- A device after an operation, the host calls it made, and the fault that cut it short. What it
did before the fault stands. -/
structure Response (δ : Type) where
  device : δ
  calls : List HostCall := []
  fault : Option Fault := none

namespace Response

def map {δ ε : Type} (f : δ → ε) (response : Response δ) : Response ε where
  device := f response.device
  calls := response.calls
  fault := response.fault

end Response

structure Panel where
  width : Int
  height : Int
  scale : Int
  title : String
  shown : Nat
deriving DecidableEq, Repr, Inhabited

namespace Panel

def new (scale : Int) : Panel where
  width := 0
  height := 0
  scale := scale
  title := ""
  shown := 0

def resized (panel : Panel) (width height : Int) : Panel :=
  { panel with width, height }

def titled (panel : Panel) (title : String) : Panel :=
  { panel with title }

def counted (panel : Panel) : Panel :=
  { panel with shown := panel.shown + 1 }

end Panel

end Chip8
