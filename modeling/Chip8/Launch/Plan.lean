import Chip8.Launch.Arguments

namespace Chip8.Launch

def required {α : Type} (name : String) : Option α → Except Fault α
  | some value => .ok value
  | none => .error (.argumentMissing name)

inductive Kind where
  | bare
  | window
  | terminal
deriving DecidableEq, Repr

structure Plan where
  dialect : Dialect
  kind : Option Kind
  mute : Option Bool
  program : Array UInt8

/-- The display that a name asks for. Without a name it is a window if there can be one, and else a
terminal. -/
def chooseKind (windows terminals : Bool) (name : Option (Given String)) :
    Except Fault (Option Kind) :=
  match name with
  | none =>
    if windows then .ok (some .window)
    else if terminals then .ok (some .terminal)
    else .error .displayUnavailable
  | some (.value "pygame") => if windows then .ok (some .window) else .error .windowUnavailable
  | some (.value "curses") =>
    if terminals then .ok (some .terminal) else .error .terminalUnavailable
  | some (.value "null") => .ok (some .bare)
  | some _ => .ok none

def plan (around : Surroundings) (arguments : Arguments) : Except Fault Plan := do
  let shift ← required "shift_quirks" arguments.shift
  let load ← required "load_quirks" arguments.load
  let logic ← required "logic_quirks" arguments.logic
  let renderer ← required "renderer" arguments.renderer
  let mute ← required "mute" arguments.mute
  let kind ← chooseKind around.windows around.terminals renderer
  let some filename ← required "filename" arguments.filename | throw .nameAbsent
  let program ← around.read filename
  return {
    dialect := {
      shiftsSecond := shift.getD false
      movesIndex := load.getD true
      clearsFlag := logic.getD false }
    kind := kind
    mute := mute
    program := program }

/-- The speaker that goes with a display. Bells are annoying, so they have to be asked for. -/
def speakerKind (kind : Kind) (mute : Option Bool) : Speaker.Kind :=
  match kind with
  | .bare => .silent
  | .window => if mute = some true then .silent else .mixer
  | .terminal => if mute = some false then .bell else .silent

structure Opening where
  kind : Kind
  scale : Option (Given Int)
  palette : Option (Given String)
  cursorMode : Option (Given Int)

def opening (arguments : Arguments) (kind : Option Kind) : Except Fault Opening := do
  let some kind := kind | throw .rendererUnknown
  let scale ← required "scale" arguments.scale
  let palette ← required "pygame_palette" arguments.palette
  let cursorMode ← required "curses_cursor_mode" arguments.cursorMode
  return { kind, scale, palette, cursorMode }

def standardScale : Kind → Int
  | .bare => Display.bareScale
  | .window => Window.standardScale
  | .terminal => Terminal.standardScale

def Opening.scaleGiven (opening : Opening) : Given Int :=
  opening.scale.getD (.value (standardScale opening.kind))

def Opening.cursorFault (opening : Opening) (script : Script) : Option Fault :=
  if script.checksCursor then Terminal.cursorFault opening.cursorMode else none

/-- The calls that open a display. A terminal is left alone if its pixels have no width, and left
half open if it fails on the mode of its cursor. -/
def Opening.calls (opening : Opening) (script : Script) : List HostCall :=
  match opening.kind with
  | .bare => []
  | .window => Window.openingCalls opening.scaleGiven
  | .terminal =>
    match Terminal.pixelWidth script.room opening.scaleGiven with
    | .error _ => []
    | .ok scale =>
      match opening.cursorFault script with
      | some _ => [.terminalOpened, .cursorSet opening.cursorMode]
      | none => Terminal.openingCalls opening.cursorMode scale

/-- The display once it is open, which a bad palette or mode of the cursor can still spoil. Nothing
depends on the scale of a display that shows nothing. -/
def Opening.display (opening : Opening) (script : Script) : Except Fault Display :=
  match opening.kind with
  | .bare =>
    match opening.scaleGiven with
    | .blank => .ok (.bare (Panel.new Display.bareScale))
    | .value scale => .ok (.bare (Panel.new scale))
  | .window => do
    let scale ← Window.width opening.scaleGiven
    let palette ← Palette.ofOption opening.palette
    return .window (Window.new scale palette)
  | .terminal => do
    let scale ← Terminal.pixelWidth script.room opening.scaleGiven
    match opening.cursorFault script with
    | some fault => throw fault
    | none => return .terminal (Terminal.new opening.cursorMode scale)

end Chip8.Launch
