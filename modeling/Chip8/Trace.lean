import Chip8.Instruction
import Chip8.Machine

namespace Chip8

def introduction : String := "FantasyChip Emulator V1.0.0 -- "

def emulatorName : String := "FantasyChip Emulator"

namespace Machine

def registersText (m : Machine) : String :=
  String.join (m.processor.v.toList.reverse.map Text.hexByte)

def traceLine (m : Machine) (mnemonic : String) : String :=
  "V: 0x" ++ m.registersText ++ " I: 0x" ++ Text.hex 4 m.processor.i ++
    " DT: 0x" ++ Text.hexByte m.timers.delay ++ " ST: 0x" ++ Text.hexByte m.timers.sound ++
    " PC: 0x" ++ Text.hex 3 m.processor.fetchedAt ++ " OP: 0x" ++ m.processor.opcode.text ++
    " IN: " ++ mnemonic

def stackText (m : Machine) : String :=
  match m.stack.toList with
  | [] => " (Empty)"
  | addresses => String.join (addresses.map fun address => " 0x" ++ Text.hex 3 address)

def phaseText : Phase → String
  | .running => "running"
  | .awaitingKey => "awaiting key"

/-- The trace line, and below it the stack and what the processor is doing. -/
def dump (m : Machine) (mnemonic : String) : String :=
  m.traceLine mnemonic ++ "\nStack:" ++ m.stackText ++ "\nState: " ++ phaseText m.processor.phase

def currentMnemonic (m : Machine) : String :=
  (Instruction.decode m.processor.opcode).mnemonic

def crashReport (m : Machine) (reason : String) : String :=
  "Emulation halted.\n\n" ++ introduction ++ "Debug info:\n" ++ m.dump m.currentMnemonic ++
    "\n\n" ++ reason ++ " (opcode 0x" ++ m.processor.opcode.text ++ " at address 0x" ++
    Text.hex 3 m.processor.fetchedAt ++ ")"

def traced (m : Machine) (instruction : Instruction) : Machine :=
  if m.settings.live then
    { m with printed := m.printed.push (m.traceLine instruction.mnemonic) }
  else m

end Machine

end Chip8
