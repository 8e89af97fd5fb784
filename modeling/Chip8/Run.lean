import Chip8.Execution
import Chip8.Pacing

namespace Chip8

/-- What a run needs of the world around it, over times `τ` and host states `σ`. -/
structure Host (τ σ : Type) where
  now : EStateM Fault σ τ
  sleep : τ → EStateM Fault σ Unit
  /-- Presses and releases keys; true asks to quit. -/
  poll : Keypad → EStateM Fault σ (Bool × Keypad)
  present : Array UInt8 → EStateM Fault σ Unit
  title : String → EStateM Fault σ Unit
  tone : EStateM Fault σ Unit

abbrev Session (σ : Type) := EStateM Fault (Machine × σ)

namespace Session

variable {τ σ α : Type}

def machine (action : EStateM Fault Machine α) : Session σ α := fun (m, host) =>
  match action m with
  | .ok value m => .ok value (m, host)
  | .error fault m => .error fault (m, host)

def host (action : EStateM Fault σ α) : Session σ α := fun (m, host) =>
  match action host with
  | .ok value host => .ok value (m, host)
  | .error fault host => .error fault (m, host)

end Session

namespace Machine

variable {τ σ : Type}

/-- One tick of the timers. The host sounds a tone when the sound timer runs out. -/
def tick (host : Host τ σ) : Session σ Unit := do
  let (m, _) ← get
  Session.machine (modify fun m => { m with timers := m.timers.tick })
  if m.timers.toneDue then Session.host host.tone

def refresh (host : Host τ σ) : Session σ Unit := do
  let (m, _) ← get
  Session.host (host.present m.screen.frame)

def countFrame (m : Machine) : Machine :=
  { m with
    frames := m.frames + 1
    reportFrames := m.reportFrames + 1
    reportSteps := m.reportSteps + m.settings.stepsPerFrame }

def frame (host : Host τ σ) : Session σ Unit := do
  let (m, _) ← get
  Session.machine (steps m.settings.stepsPerFrame.toNat)
  tick host
  refresh host
  Session.machine (modify countFrame)

def speedTitle (frames steps : Int) : String :=
  emulatorName ++ " - " ++ toString frames ++ " FPS, " ++ toString steps ++ " OPS"

def report (host : Host τ σ) : Session σ Unit := do
  let (m, _) ← get
  Session.host (host.title (speedTitle m.reportFrames m.reportSteps))
  Session.machine (modify fun m => { m with reportFrames := 0, reportSteps := 0 })

def pollHost (host : Host τ σ) : Session σ Bool := do
  let (m, _) ← get
  let (quit, keypad) ← Session.host (host.poll m.keypad)
  Session.machine (modify fun m => { m with keypad })
  return quit

inductive Ending where
  | quit
  | complete
  | cutOff
deriving DecidableEq, Repr

variable [Add τ] [Sub τ] [LT τ] [LE τ] [DecidableLT τ] [DecidableLE τ] [OfNat τ 0]

/-- What comes before the frame of a turn that begins now: a report if one is due, and the keys.
True says that the host asks to quit. -/
def beforeFrame (host : Host τ σ) (tempo : Tempo τ) (pacing : Pacing τ) (now : τ) :
    Session σ (Bool × Pacing τ) := do
  let due := pacing.reportDue now
  if due then report host
  let pacing := if due then pacing.reported tempo now else pacing
  return (← pollHost host, pacing)

/-- The first half of a turn, which begins now: all up to its frame, and the frame unless the host
asks to quit, which is what true says. -/
def openTurn (host : Host τ σ) (tempo : Tempo τ) (pacing : Pacing τ) (now : τ) :
    Session σ (Bool × Pacing τ) := do
  let (quit, pacing) ← beforeFrame host tempo pacing now
  if quit then return (true, pacing)
  frame host
  return (false, pacing.afterFrame tempo now)

/-- One turn of a run: a frame and the pause after it. Nothing is left to pace if the host asked to
quit. -/
def turn (host : Host τ σ) (tempo : Tempo τ) (pacing : Pacing τ) :
    Session σ (Option (Pacing τ)) := do
  let now ← Session.host host.now
  let (quit, pacing) ← openTurn host tempo pacing now
  if quit then return none
  let after ← Session.host host.now
  match pacing.pause after with
  | some rest => Session.host (host.sleep rest)
  | none => pure ()
  return some pacing

/-- Turns until the host asks to quit or the frames asked for have run, at most `fuel` of them. -/
def turns (host : Host τ σ) (tempo : Tempo τ) : Nat → Option Nat → Pacing τ → Session σ Ending
  | _, some 0, _ => return .complete
  | 0, _, _ => return .cutOff
  | fuel + 1, left, pacing => do
    match ← turn host tempo pacing with
    | none => return .quit
    | some pacing => turns host tempo fuel (left.map (· - 1)) pacing

def run (host : Host τ σ) (tempo : Tempo τ) (fuel : Nat) (maxFrames : Option Int) :
    Session σ Ending := do
  let now ← Session.host host.now
  turns host tempo fuel (maxFrames.map Int.toNat) (Pacing.start tempo now)

/-- A run whose first frame fails at once. It gets as far as the keys, and the host may quit. -/
def runFailing (host : Host τ σ) (tempo : Tempo τ) (fault : Fault) : Session σ Ending := do
  let began ← Session.host host.now
  let now ← Session.host host.now
  let (quit, _) ← beforeFrame host tempo (Pacing.start tempo began) now
  if quit then return .quit else throw fault

end Machine

end Chip8
