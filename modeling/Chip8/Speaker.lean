import Chip8.HostCall

namespace Chip8.Tone

def playbackFrequency : Float := 44100.0

def patternFrequency : Float := 4000.0

def stretch : Float := playbackFrequency / patternFrequency

def milliseconds : Nat := 100

def pattern : Array UInt8 :=
  #[0x00, 0xFF, 0x00, 0xFF, 0x00, 0xFF, 0x00, 0xFF,
    0x00, 0xFF, 0x00, 0xFF, 0x00, 0xFF, 0x00, 0xFF]

def wholePart (x : Float) : Nat :=
  x.toUInt64.toNat

def modEight (x : Float) : Float :=
  x - 8.0 * (x / 8.0).floor

/-- The sample at a place of the stretched wave. The most significant bit of a byte sounds first. -/
def sample (bits : Array UInt8) (k : Nat) : UInt8 :=
  let position := Float.ofNat k / stretch
  let byte := bits.getD (wholePart (position / 8.0)) 0
  if byte.toNat.testBit (7 - wholePart (modEight position)) then 0xFF else 0x00

def wave (bits : Array UInt8) : Array UInt8 :=
  Array.ofFn fun k : Fin (wholePart (Float.ofNat (bits.size * 8) * stretch)) => sample bits k

end Chip8.Tone

namespace Chip8

inductive Speaker.Kind where
  | silent
  | mixer
  | bell
deriving DecidableEq, Repr, Inhabited

structure Speaker where
  kind : Speaker.Kind
  tones : Nat
deriving DecidableEq, Repr, Inhabited

namespace Speaker

def new (kind : Kind) : Speaker where
  kind := kind
  tones := 0

def openingCalls : Kind → List HostCall
  | .silent => []
  | .mixer =>
    [.mixerPrepared 44100, .mixerOpened, .soundMade (Tone.wave Tone.pattern), .soundSoftened]
  | .bell => []

def toneCalls : Kind → List HostCall
  | .silent => []
  | .mixer => [.soundStopped, .soundPlayed Tone.milliseconds]
  | .bell => [.bellRung]

def play (speaker : Speaker) : Response Speaker where
  device := { speaker with tones := speaker.tones + 1 }
  calls := toneCalls speaker.kind

def closingCalls : Kind → List HostCall
  | .silent => []
  | .mixer => [.soundStopped, .mixerClosed]
  | .bell => []

end Speaker

end Chip8
