import Chip8.Display.Palette
import Chip8.Trace

namespace Chip8

structure Window where
  panel : Panel
  palette : Palette
  /-- The picture in the emulated resolution; there is none without pixels. -/
  picture : Option (Array Colour)
  /-- The frame drawn last in this resolution. -/
  last : Option (Array UInt8)
deriving DecidableEq, Repr, Inhabited

namespace Window

def standardScale : Int := 640

def width : Given Int → Except Fault Int
  | .blank => .error .windowWidthBlank
  | .value width => .ok width

def size (scale : Int) : Int × Int :=
  (scale, Int.fdiv scale 2)

def openingCalls (scale : Given Int) : List HostCall :=
  [.windowOpened, .windowCaption emulatorName] ++
    match width scale with
    | .error _ => []
    | .ok scale => [.windowSized (size scale).1 (size scale).2]

def new (scale : Int) (palette : Palette) : Window where
  panel := Panel.new scale
  palette := palette
  picture := none
  last := none

/-- The picture of one colour in a resolution, whose bytes have to be as many as an extent can tell
and there is memory for. Every pixel has three of them. -/
def plain (room : Room) (colour : Colour) (width height : Int) :
    Except Fault (Option (Array Colour)) :=
  if width = 0 ∨ height = 0 then .ok none
  else if !fits (width * height) then .error .sizeTooWide
  else if width * height * 3 > maxExtent then .error .repetitionTooLong
  else if !hasRoom room (width * height * 3) then .error .memoryExhausted
  else .ok (some (Array.replicate (width * height).toNat colour))

def setResolution (window : Window) (room : Room) (width height : Int) : Response Window :=
  match plain room window.palette.background width height with
  | .error fault => { device := window, fault := some fault }
  | .ok picture =>
    { device := { window with panel := window.panel.resized width height, picture, last := none } }

def setTitle (window : Window) (title : String) : Response Window where
  device := { window with panel := window.panel.titled title }
  calls := [.windowCaption title]

def putPixel (picture : Array Colour) (k : Nat) (colour : Colour) : Array Colour :=
  if k < picture.size then picture.setIfInBounds k colour else picture.push colour

/-- Puts pixels into a picture from place `k` on, up to the first that has no colour. -/
def paint (palette : Palette) (picture : Array Colour) (k : Nat) :
    List UInt8 → Array Colour × Option Fault
  | [] => (picture, none)
  | pixel :: pixels =>
    match palette.colour? pixel with
    | none => (picture, some .colourMissing)
    | some colour => paint palette (putPixel picture k colour) (k + 1) pixels

def drawingCalls (window : Window) (picture : Array Colour) : List HostCall :=
  let (width, height) := size window.panel.scale
  [.imageMade picture window.panel.width window.panel.height, .imageScaled width height,
    .imageDrawn, .windowFlipped]

def counted (window : Window) : Window :=
  { window with panel := window.panel.counted }

/-- Shows a frame. A frame that cannot be painted is not shown, but leaves its paint. -/
def present (window : Window) (frame : Array UInt8) : Response Window :=
  match window.picture with
  | none => { device := window.counted }
  | some picture =>
    if window.last = some frame then { device := window.counted }
    else
      let (picture, fault) := paint window.palette picture 0 frame.toList
      let painted := { window with picture := some picture }
      match fault with
      | some fault => { device := painted, fault := some fault }
      | none =>
        { device := { painted with last := some frame }.counted
          calls := painted.drawingCalls picture }

def closingCalls : List HostCall :=
  [.windowClosed]

end Window

end Chip8
