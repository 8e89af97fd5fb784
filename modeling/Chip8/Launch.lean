import Chip8.Launch.Plan

namespace Chip8

structure Report where
  printed : Array String
  world : World
  fault : Option Fault
  machine : Option Machine

namespace Launch

def banner : String :=
  introduction ++ "Copyright (C) 2022 Gregory Maynard-Hoare, licensed under " ++
    "GNU Affero General Public License v3.0"

def openDisplay (opening : Opening) : EStateM Fault World Unit := fun world =>
  let opened := world.record (opening.calls world.script)
  match opening.display world.script with
  | .error fault => .error fault opened
  | .ok display => .ok () { opened with display }

/-- Starts the reader of a terminal, with the first characters already typed; windows and missing
displays need no reader. -/
def openKeyboard (kind : Kind) : EStateM Fault World Unit := fun world =>
  match kind with
  | .bare => .ok () world
  | .window => .ok () { world with keyboard := .window }
  | .terminal =>
    World.typeNext ({ world with keyboard := .terminal Typist.start }.record [.readerStarted])

def openSpeaker (kind : Speaker.Kind) : EStateM Fault World Unit := fun world =>
  .ok () ({ world with speaker := Speaker.new kind }.record (Speaker.openingCalls kind))

def closeDisplay (world : World) : World :=
  world.record world.display.closingCalls

def closeKeyboard (world : World) : World :=
  match world.keyboard with
  | .terminal typist =>
    { world with
      keyboard := .terminal { typist with typing := typist.typing.requestStop } }.record
        [.readerStopped]
  | _ => world

def closeSpeaker (world : World) : World :=
  world.record (Speaker.closingCalls world.speaker.kind)

def closeAll (world : World) : World :=
  closeDisplay (closeKeyboard (closeSpeaker world))

/-- The keymap that is asked for. There is none that goes without saying. -/
def keymapOf : Option (Given String) → Except Fault Keymap
  | none => .error .textAbsent
  | some .blank => .error .textBlank
  | some (.value text) => Keymap.parse text

def lift {α : Type} (value : Except Fault α) : EStateM Fault World α := fun world =>
  match value with
  | .ok value => .ok value world
  | .error fault => .error fault world

/-- The steps in a frame. A machine without a number of them never comes to a frame. -/
def stepsOf : Option (Given Int) → Int
  | some (.value steps) => steps
  | _ => 9

def assemble (noise : Noise) (arguments : Arguments) (plan : Plan) (kind : Kind) :
    EStateM Fault World Machine := do
  let given ← lift (required "keymap" arguments.keymap)
  let keymap ← lift (keymapOf given)
  openKeyboard kind
  openSpeaker (speakerKind kind plan.mute)
  let live ← lift (required "debug" arguments.debug)
  let stepsPerFrame ← lift (required "steps_per_frame" arguments.stepsPerFrame)
  let strict ← lift (required "strict" arguments.strict)
  World.attach
  let settings : Settings := {
    stepsPerFrame := stepsOf stepsPerFrame
    dialect := { plan.dialect with strict }
    live }
  return Machine.new settings keymap noise

def ofProgram : Fault → Bool
  | .stackOverflow => true
  | .stackUnderflow => true
  | .bankOverflow => true
  | .programTooLarge _ _ => true
  | .reservedWrite _ => true
  | _ => false

def reportedFault (m : Machine) (fault : Fault) : Fault :=
  if ofProgram fault then .halted (m.crashReport fault.message) fault else fault

def runReporting (counted : Bool) : Session World Unit := fun session =>
  match (if counted then World.run none else World.runUncounted) session with
  | .ok _ session => .ok () session
  | .error fault (m, world) => .error (reportedFault m fault) (m, world)

def play (program : Array UInt8) (counted : Bool) : Session World Unit := do
  Session.machine (Machine.load program)
  runReporting counted

def endedEarly (fault : Fault) (world : World) : Report where
  printed := #[banner]
  world := world
  fault := some fault
  machine := none

def endedLate (fault : Option Fault) (m : Machine) (world : World) : Report where
  printed := #[banner] ++ m.printed
  world := closeAll world
  fault := fault
  machine := some m

/-- Opens everything and builds the machine, or reports why that could not be done. The program is
not loaded yet. -/
def prepare (around : Surroundings) (arguments : Arguments) :
    Except Report (Array UInt8 × Machine × World) :=
  let world := World.bare around.clock around.script none
  match plan around arguments with
  | .error fault => .error (endedEarly fault world)
  | .ok plan =>
    match opening arguments plan.kind with
    | .error fault => .error (endedEarly fault world)
    | .ok opening =>
      match openDisplay opening world with
      | .error fault world => .error (endedEarly fault world)
      | .ok () world =>
        match assemble around.noise arguments plan opening.kind world with
        | .error fault world => .error (endedEarly fault (closeDisplay world))
        | .ok m world => .ok (plan.program, m, world)

def launch (around : Surroundings) (arguments : Arguments) : Report :=
  match prepare around arguments with
  | .error report => report
  | .ok (program, session) =>
    match play program arguments.countsSteps session with
    | .ok () (m, world) => endedLate none m world
    | .error fault (m, world) => endedLate (some fault) m world

def launchWords (around : Surroundings) (words : List String) : Report :=
  match CommandLine.parse words with
  | .ok options => launch around (Arguments.ofOptions options)
  | .error fault =>
    { printed := #[]
      world := World.bare around.clock around.script none
      fault := some fault
      machine := none }

end Launch

end Chip8
