import Chip8.Bank
import Chip8.HostCall

namespace Chip8

structure Terminal where
  panel : Panel
  cursorMode : Option (Given Int)
  /-- The frame on the pad, unless all of it is to be written again. -/
  last : Option (Array UInt8)
  /-- The pad was written since it was copied. -/
  changed : Bool
  /-- The rows and columns the terminal had last; none is negative. -/
  size : Int × Int
deriving DecidableEq, Repr, Inhabited

namespace Terminal

def standardScale : Int := 2

/-- The pad for a resolution: a row more for the title, and room for the cursor. -/
def padFor (width height scale : Int) : HostCall :=
  .padMade (height + 2) (width * scale + 1)

def pixelWidth (room : Room) : Given Int → Except Fault Int
  | .blank => .error .pixelWidthBlank
  | .value width =>
    if !fits width then .error .sizeTooWide
    else if !hasRoom room width then .error .memoryExhausted
    else .ok width

/-- Why a terminal does not even try to set a mode of its cursor: it takes numbers of 32 bits with a
sign. A number that is no mode only leaves the cursor as it is. -/
def cursorFault : Option (Given Int) → Option Fault
  | none => some .cursorAbsent
  | some .blank => some .cursorBlank
  | some (.value mode) =>
    if -2147483648 ≤ mode ∧ mode ≤ 2147483647 then none else some .cursorTooWide

def openingCalls (cursorMode : Option (Given Int)) (scale : Int) : List HostCall :=
  [.terminalOpened, .cursorSet cursorMode, .echoOff, .cbreakOn, padFor 0 0 scale]

def new (cursorMode : Option (Given Int)) (scale : Int) : Terminal where
  panel := Panel.new scale
  cursorMode := cursorMode
  last := none
  changed := false
  size := (-1, -1)

def setResolution (terminal : Terminal) (width height : Int) : Response Terminal where
  device := { terminal with panel := terminal.panel.resized width height, last := none }
  calls := [padFor width height terminal.panel.scale]

def filled (text : String) (width : Int) : String :=
  text.pushn ' ' (width.toNat - text.length)

def columns (terminal : Terminal) : Int :=
  terminal.panel.width * terminal.panel.scale

/-- Changes the title. It is written if it is shorter than a row of pixels. -/
def setTitle (terminal : Terminal) (room : Room) (title : String) : Response Terminal :=
  let titled := { terminal with panel := terminal.panel.titled title }
  if terminal.columns ≤ title.length then { device := titled }
  else if !fits terminal.columns then { device := terminal, fault := some .widthTooWide }
  else if !hasRoom room terminal.columns then { device := terminal, fault := some .memoryExhausted }
  else
    { device := { titled with changed := true }
      calls := [.padWritten 0 0 (filled title terminal.columns) true] }

def pixelText (scale : Int) : String :=
  "".pushn ' ' scale.toNat

def differs (last : Option (Array UInt8)) (k : Nat) (pixel : UInt8) : Except Fault Bool :=
  match last with
  | none => .ok true
  | some last =>
    match last[k]? with
    | none => .error .frameTooLong
    | some old => .ok (old != pixel)

def pixelCall (panel : Panel) (text : String) (k : Nat) (pixel : UInt8) : Except Fault HostCall :=
  if panel.width = 0 then .error .noColumns
  else .ok (.padWritten (Int.fdiv k panel.width + 1) (Int.fmod k panel.width * panel.scale)
    text (pixel != 0))

def changes (panel : Panel) (text : String) (last : Option (Array UInt8)) (k : Nat) :
    List UInt8 → List HostCall × Option Fault
  | [] => ([], none)
  | pixel :: pixels =>
    match differs last k pixel with
    | .error fault => ([], some fault)
    | .ok false => changes panel text last (k + 1) pixels
    | .ok true =>
      match pixelCall panel text k pixel with
      | .error fault => ([], some fault)
      | .ok call =>
        let (calls, fault) := changes panel text last (k + 1) pixels
        (call :: calls, fault)

def write (terminal : Terminal) (frame : Array UInt8) : Response Terminal :=
  let text := pixelText terminal.panel.scale
  let (calls, fault) := changes terminal.panel text terminal.last 0 frame.toList
  let written := { terminal with changed := terminal.changed || !calls.isEmpty }
  match fault with
  | some fault => { device := written, calls, fault := some fault }
  | none => { device := { written with last := some frame }, calls }

/-- Brings a pad onto a terminal of so many rows and columns. `resizes` says whether the host can be
told about a new size. -/
def settle (terminal : Terminal) (size : Int × Int) (resizes : Bool) : Response Terminal :=
  if size = terminal.size then
    if terminal.changed then
      { device := { terminal with changed := false }
        calls := [.padCopied (size.1 - 1) (size.2 - 1)] }
    else { device := terminal }
  else
    { device := { terminal with size, last := none }
      calls := [.terminalCleared] ++
        (if resizes then [.terminalResized size.1 size.2] else []) ++ [.terminalRefreshed] }

/-- Shows a frame. The size of the terminal is looked at after the frame has been written. -/
def present (terminal : Terminal) (frame : Array UInt8) (size : Int × Int) (resizes : Bool) :
    Response Terminal :=
  let written := terminal.write frame
  match written.fault with
  | some _ => written
  | none =>
    let settled := written.device.settle size resizes
    { device := { settled.device with panel := settled.device.panel.counted }
      calls := written.calls ++ settled.calls }

/-- The calls that close a terminal. The cursor is made visible again if it was hidden or bright. -/
def closingCalls (terminal : Terminal) : List HostCall :=
  [.cbreakOff, .echoOn] ++
    (if terminal.cursorMode ≠ some (.value 1) then [.cursorSet (some (.value 1))] else []) ++
    [.terminalClosed]

theorem toList_pushn (text : String) (c : Char) (n : Nat) :
    (text.pushn c n).toList = text.toList ++ List.replicate n c := by
  unfold String.pushn
  induction n with
  | zero => simp [Nat.repeat]
  | succ n ih => simp [Nat.repeat, ih, List.replicate_succ']

theorem toList_filled (text : String) (width : Int) :
    (filled text width).toList =
      text.toList ++ List.replicate (width.toNat - text.length) ' ' :=
  toList_pushn text ' ' _

theorem toList_pixelText (scale : Int) :
    (pixelText scale).toList = List.replicate scale.toNat ' ' := by
  simp [pixelText, toList_pushn]

end Terminal

end Chip8
