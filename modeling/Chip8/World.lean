import Chip8.Clock
import Chip8.Display
import Chip8.Keyboard.Event
import Chip8.Keyboard.Typing
import Chip8.Run
import Chip8.Speaker

namespace Chip8

inductive Keyboard where
  | bare (patience : Option Nat)
  | window
  | terminal (typist : Typist Float)

structure Script where
  events : List (List KeyEvent) := []
  /-- The codes typed when the reader starts, and after each sleep. -/
  typed : List (List Int) := []
  /-- The sizes of the terminal; the last one stays. -/
  sizes : List (Int × Int) := []
  resizes : Bool := true
  /-- The terminal fails on modes of its cursor that are no numbers, or too wide. -/
  checksCursor : Bool := true
  /-- The reader has a thread of its own, which alone ends when the reader fails. -/
  threaded : Bool := true
  room : Room := fun _ => true

structure World where
  display : Display
  keyboard : Keyboard
  speaker : Speaker
  clock : Clock
  script : Script
  calls : Array HostCall
  sleeps : Array Float
  titles : Array String

namespace World

def holdTime : Float := 0.2

def standardSize : Int × Int := (24, 80)

def bare (clock : Clock) (script : Script) (patience : Option Nat) : World where
  display := .bare (Panel.new Display.bareScale)
  keyboard := .bare patience
  speaker := Speaker.new .silent
  clock := clock
  script := script
  calls := #[]
  sleeps := #[]
  titles := #[]

def record (world : World) (calls : List HostCall) : World :=
  { world with calls := world.calls ++ calls }

def answer (response : Response Display) : EStateM Fault World Unit := fun world =>
  let next := { world with display := response.device }.record response.calls
  match response.fault with
  | none => .ok () next
  | some fault => .error fault next

def nextSize (world : World) : Int × Int :=
  world.script.sizes.headD standardSize

def sizesAfter : List (Int × Int) → List (Int × Int)
  | _ :: next :: rest => next :: rest
  | sizes => sizes

def present (frame : Array UInt8) : EStateM Fault World Unit := fun world =>
  let response := world.display.present frame world.nextSize world.script.resizes
  let sizes :=
    if world.display.looksAtSize response then sizesAfter world.script.sizes
    else world.script.sizes
  answer response { world with script := { world.script with sizes } }

def title (text : String) : EStateM Fault World Unit := fun world =>
  answer (world.display.setTitle world.script.room text)
    { world with titles := world.titles.push text }

def tone : EStateM Fault World Unit := fun world =>
  let response := world.speaker.play
  .ok () ({ world with speaker := response.device }.record response.calls)

def now : EStateM Fault World Float := fun world =>
  match Clock.read world.clock with
  | .ok time clock => .ok time { world with clock }
  | .error fault clock => .error fault { world with clock }

/-- Types the next characters of the script, if there is a terminal to type at. The session does not
see a fault of a reader that has a thread of its own. -/
def typeNext : EStateM Fault World Unit := fun world =>
  match world.keyboard with
  | .terminal typist =>
    let (typing, fault) := typist.typing.type (world.script.typed.headD [])
    let next := { world with
      keyboard := .terminal { typist with typing }
      script := { world.script with typed := world.script.typed.tail } }
    match fault with
    | none => .ok () next
    | some fault => if world.script.threaded then .ok () next else .error fault next
  | _ => .ok () world

def sleep (rest : Float) : EStateM Fault World Unit := fun world =>
  typeNext { world with
    clock := world.clock.slept rest
    sleeps := world.sleeps.push rest }

def poll (keypad : Keypad) : EStateM Fault World (Bool × Keypad) := fun world =>
  match world.keyboard with
  | .bare none => .ok (false, keypad) world
  | .bare (some 0) => .ok (true, keypad) world
  | .bare (some (n + 1)) => .ok (false, keypad) { world with keyboard := .bare (some n) }
  | .window =>
    .ok (KeyEvent.applyAll (world.script.events.headD []) keypad)
      { world with script := { world.script with events := world.script.events.tail } }
  | .terminal typist =>
    let time := world.clock.time
    let (quit, keypad, typist) := typist.poll keypad time (time + holdTime)
    .ok (quit, keypad) { world with keyboard := .terminal typist }

def host : Host Float World where
  now := now
  sleep := sleep
  poll := poll
  present := present
  title := title
  tone := tone

def attach : EStateM Fault World Unit := do
  let world ← get
  answer (world.display.setResolution world.script.room 64 32)
  title (Machine.speedTitle 0 0)

/-- A run in a world, which the clock brings to an end if nothing else does. -/
def run (maxFrames : Option Int) : Session World Machine.Ending := do
  let (_, world) ← get
  Machine.run host sixtyHertz (world.clock.limit + 1) maxFrames

def runUncounted : Session World Machine.Ending :=
  Machine.runFailing host sixtyHertz .stepsBlank

end World

end Chip8
