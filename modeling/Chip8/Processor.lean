import Chip8.Bank
import Chip8.Opcode

namespace Chip8

inductive Phase where
  | running
  | awaitingKey
deriving DecidableEq, Repr, Inhabited

/-- The registers. The index register and the addresses are integers, since only accesses through
them are taken modulo the size of memory. -/
structure Processor where
  v : Bank 16
  i : Int
  pc : Int
  fetchedAt : Int
  opcode : Opcode
  phase : Phase
  keyRegister : Nibble
deriving DecidableEq, Inhabited

namespace Processor

def startingAt (address : Int) : Processor where
  v := Bank.zeros 16
  i := 0
  pc := address % 4096
  fetchedAt := address % 4096
  opcode := Opcode.ofNat 0
  phase := .running
  keyRegister := 0

end Processor

/-- The points on which interpreters of the time disagreed. -/
structure Dialect where
  /-- A shift reads the second register, not the first. -/
  shiftsSecond : Bool := false
  movesIndex : Bool := true
  /-- The three logic operations clear the flag register. -/
  clearsFlag : Bool := false
  strict : Bool := false
deriving DecidableEq, Repr, Inhabited

structure Settings where
  stepsPerFrame : Int := 9
  dialect : Dialect := {}
  live : Bool := false

/-- An endless supply of random bytes, and how many of them have been drawn. -/
structure Noise where
  source : Nat → UInt8
  drawn : Nat

namespace Noise

def next (noise : Noise) : UInt8 :=
  noise.source noise.drawn

def rest (noise : Noise) : Noise :=
  { noise with drawn := noise.drawn + 1 }

/-- The bytes of a list in turn, again from its start after the last; zeros if it has none. -/
def cycle (bytes : Array UInt8) : Noise where
  source k := bytes.getD (k % bytes.size) 0
  drawn := 0

def ofSeed (seed : UInt64) : Noise where
  source k :=
    let z := seed + UInt64.ofNat (k + 1) * 0x9E3779B97F4A7C15
    let z := (z ^^^ (z >>> 30)) * 0xBF58476D1CE4E5B9
    let z := (z ^^^ (z >>> 27)) * 0x94D049BB133111EB
    (z ^^^ (z >>> 31)).toUInt8
  drawn := 0

end Noise

end Chip8
