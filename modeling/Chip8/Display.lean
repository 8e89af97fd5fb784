import Chip8.Display.Terminal
import Chip8.Display.Window

namespace Chip8

inductive Display where
  | bare (panel : Panel)
  | window (window : Window)
  | terminal (terminal : Terminal)
deriving DecidableEq, Repr, Inhabited

namespace Display

def bareScale : Int := 1

def panel : Display → Panel
  | bare p => p
  | window w => w.panel
  | terminal t => t.panel

def setResolution (display : Display) (room : Room) (width height : Int) : Response Display :=
  match display with
  | bare p => { device := bare (p.resized width height) }
  | window w => (w.setResolution room width height).map window
  | terminal t => (t.setResolution width height).map terminal

def setTitle (display : Display) (room : Room) (title : String) : Response Display :=
  match display with
  | bare p => { device := bare (p.titled title) }
  | window w => (w.setTitle title).map window
  | terminal t => (t.setTitle room title).map terminal

def present (display : Display) (frame : Array UInt8) (size : Int × Int) (resizes : Bool) :
    Response Display :=
  match display with
  | bare p => { device := bare p.counted }
  | window w => (w.present frame).map window
  | terminal t => (t.present frame size resizes).map terminal

/-- Whether showing a frame looks at the terminal's size, as it does once the frame is written. -/
def looksAtSize (display : Display) (response : Response Display) : Bool :=
  match display with
  | terminal _ => response.fault.isNone
  | _ => false

def closingCalls : Display → List HostCall
  | bare _ => []
  | window _ => Window.closingCalls
  | terminal t => t.closingCalls

end Display

end Chip8
