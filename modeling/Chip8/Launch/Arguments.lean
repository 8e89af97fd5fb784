import Chip8.CommandLine
import Chip8.World

namespace Chip8

/-- What a launch can be given. Every argument has to be there, if only to say that nothing special
is wanted. -/
structure Arguments where
  filename : Option (Option String)
  stepsPerFrame : Option (Option (Given Int))
  renderer : Option (Option (Given String))
  scale : Option (Option (Given Int))
  mute : Option (Option Bool)
  keymap : Option (Option (Given String))
  cursorMode : Option (Option (Given Int))
  palette : Option (Option (Given String))
  shift : Option (Option Bool)
  load : Option (Option Bool)
  logic : Option (Option Bool)
  strict : Option Bool
  debug : Option Bool
deriving Repr

namespace Arguments

def ofOptions (options : Options) : Arguments where
  filename := some (some options.filename)
  stepsPerFrame := some (some options.stepsPerFrame)
  renderer := some options.renderer
  scale := some options.scale
  mute := some (options.mute.map Given.isSet)
  keymap := some (some options.keymap)
  cursorMode := some (some options.cursorMode)
  palette := some options.palette
  shift := some (options.shift.map Given.isSet)
  load := some (options.load.map Given.isSet)
  logic := some (options.logic.map Given.isSet)
  strict := some options.strict
  debug := some options.debug

def countsSteps (arguments : Arguments) : Bool :=
  arguments.stepsPerFrame != some (some .blank)

end Arguments

structure Surroundings where
  read : String → Except Fault (Array UInt8)
  noise : Noise
  windows : Bool
  terminals : Bool
  clock : Clock
  script : Script

end Chip8
