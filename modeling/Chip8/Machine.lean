import Chip8.CallStack
import Chip8.Keypad
import Chip8.Memory
import Chip8.Processor
import Chip8.Screen
import Chip8.Timers

namespace Chip8

structure Machine where
  processor : Processor
  memory : Memory
  stack : CallStack
  screen : Screen 64 32
  timers : Timers
  keypad : Keypad
  noise : Noise
  settings : Settings
  printed : Array String
  program : Array UInt8
  /-- Frames since the last reset. -/
  frames : Nat
  reportFrames : Nat
  /-- Steps accounted for since the last report. -/
  reportSteps : Int

namespace Machine

def stackLimit : Int := 16

def new (settings : Settings) (keymap : Keymap) (noise : Noise) : Machine where
  processor := Processor.startingAt Memory.programStart
  memory := Memory.image #[]
  stack := CallStack.empty stackLimit
  screen := Screen.dark 64 32
  timers := Timers.stopped
  keypad := Keypad.ofKeymap keymap
  noise := noise
  settings := settings
  printed := #[]
  program := #[]
  frames := 0
  reportFrames := 0
  reportSteps := 0

def reset (m : Machine) : Machine :=
  { m with
    processor := Processor.startingAt Memory.programStart
    memory := Memory.image m.program
    stack := m.stack.cleared
    screen := Screen.dark 64 32
    timers := Timers.stopped
    keypad := m.keypad.releaseAll
    frames := 0 }

/-- Loads a program and resets the machine. A program that does not fit changes nothing. -/
def load (program : Array UInt8) : EStateM Fault Machine Unit := fun m =>
  match Memory.checkProgram program with
  | .error fault => .error fault m
  | .ok () => .ok () { m with program }.reset

def register (m : Machine) (x : Nibble) : UInt8 :=
  m.processor.v.get x

def setRegister (m : Machine) (x : Nibble) (value : UInt8) : Machine :=
  { m with processor.v := m.processor.v.set x value (Nibble.lt x) }

def flagRegister : Nibble := 0xF

def setFlag (m : Machine) (flag : Bool) : Machine :=
  m.setRegister flagRegister (if flag then 1 else 0)

def jumpTo (m : Machine) (address : Int) : Machine :=
  { m with processor.pc := address }

def advance (m : Machine) : Machine :=
  m.jumpTo ((m.processor.pc + 2) % 4096)

def retreat (m : Machine) : Machine :=
  m.jumpTo ((m.processor.pc - 2) % 4096)

def setIndex (m : Machine) (value : Int) : Machine :=
  { m with processor.i := value }

end Machine

end Chip8
