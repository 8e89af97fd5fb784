import Chip8.Launch

namespace Chip8.Main

def now : IO Float := do
  return Float.ofNat (← IO.monoNanosNow) / 1000000000.0

def readFile (path : String) : IO (Except Fault (Array UInt8)) := do
  try
    return .ok (← IO.FS.readBinFile path).data
  catch
    | .noFileOrDirectory _ _ _ => return .error (.fileMissing path)
    | error => throw error

def noise : IO Noise := do
  let bytes ← IO.getRandomBytes 8
  return Noise.ofSeed (bytes.foldl (fun seed byte => seed * 256 + byte.toUInt64) 0)

def flush (m : Machine) : IO Machine := do
  for line in m.printed do
    IO.println line
  return { m with printed := #[] }

def finish (fault : Option Fault) : IO UInt32 := do
  match fault with
  | none => return 0
  | some (.exited status) => return UInt32.ofNat status
  | some fault =>
    IO.eprintln fault.message
    return 1

partial def turns (pacing : Pacing Float) (session : Machine × World) : IO UInt32 := do
  match Machine.openTurn World.host sixtyHertz pacing (← now) session with
  | .error fault (m, _) =>
    let m ← flush m
    finish (some (Launch.reportedFault m fault))
  | .ok (quit, pacing) (m, world) =>
    let m ← flush m
    if quit then return 0
    if let some rest := pacing.pause (← now) then
      IO.sleep (rest * 1000.0).toUInt32
    turns pacing (m, world)

def run (options : Options) : IO UInt32 := do
  IO.println Launch.banner
  let contents ← readFile options.filename
  let around : Surroundings := {
    read := fun _ => contents
    noise := ← noise
    windows := false
    terminals := false
    clock := Clock.startingAt 0.0 #[] 0
    script := {} }
  let arguments := Arguments.ofOptions options
  match Launch.prepare around arguments with
  | .error report => finish report.fault
  | .ok (program, session) =>
    match (Session.machine (Machine.load program) : Session World Unit) session with
    | .error fault _ => finish (some fault)
    | .ok () session =>
      if arguments.countsSteps then turns (Pacing.start sixtyHertz (← now)) session
      else finish (some .stepsBlank)

end Chip8.Main

def main (words : List String) : IO UInt32 := do
  match Chip8.CommandLine.parse words with
  | .ok options => Chip8.Main.run options
  | .error fault => Chip8.Main.finish (some fault)
