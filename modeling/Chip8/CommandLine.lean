import Chip8.CommandLine.Token
import Chip8.HostCall
import Chip8.Keypad

namespace Chip8

structure Options where
  filename : String
  stepsPerFrame : Given Int := .value 9
  renderer : Option (Given String) := none
  scale : Option (Given Int) := none
  mute : Option (Given Int) := none
  keymap : Given String := .value Keymap.standard
  cursorMode : Given Int := .value 0
  palette : Option (Given String) := none
  shift : Option (Given Int) := none
  load : Option (Given Int) := none
  logic : Option (Given Int) := none
  strict : Bool := false
  debug : Bool := false
deriving DecidableEq, Repr

namespace CommandLine

def misused : Fault := .exited 2

def helped : Fault := .exited 0

structure Reading where
  options : Options := { filename := "" }
  filename : Option String := none
  leftover : Bool := false

def Reading.argument (reading : Reading) (text : String) : Reading :=
  if reading.filename.isNone then { reading with filename := some text }
  else { reading with leftover := true }

def integer (text : String) : Except Fault Int :=
  match Text.Numeral.decimal? text with
  | some value => .ok value
  | none => .error misused

def integerAmong (choices : List Int) (text : String) : Except Fault Int := do
  let value ← integer text
  if choices.contains value then return value else throw misused

def rendererName (text : String) : Except Fault String :=
  if ["pygame", "curses", "null"].contains text then .ok text else .error misused

/-- Reads the value of an option. The separator is none, and not read. -/
def given {α : Type} (read : String → Except Fault α) (text : String) : Except Fault (Given α) :=
  if text = separatorWord then .ok .blank else Given.value <$> read text

def assign (options : Options) (flag : Flag) (text : String) : Except Fault Options :=
  match flag with
  | .stepsPerFrame => do return { options with stepsPerFrame := ← given integer text }
  | .renderer => do return { options with renderer := some (← given rendererName text) }
  | .scale => do return { options with scale := some (← given integer text) }
  | .mute => do return { options with mute := some (← given (integerAmong [0, 1]) text) }
  | .keymap => do return { options with keymap := ← given .ok text }
  | .cursorMode => do return { options with cursorMode := ← given (integerAmong [0, 1, 2]) text }
  | .palette => do return { options with palette := some (← given .ok text) }
  | .shift => do return { options with shift := some (← given (integerAmong [0, 1]) text) }
  | .load => do return { options with load := some (← given (integerAmong [0, 1]) text) }
  | .logic => do return { options with logic := some (← given (integerAmong [0, 1]) text) }
  | .help | .strict | .debug => .error misused

def turnOn (options : Options) : Flag → Except Fault Options
  | .help => .error helped
  | .strict => .ok { options with strict := true }
  | .debug => .ok { options with debug := true }
  | _ => .error misused

inductive Action where
  | on (flag : Flag)
  | value (flag : Flag) (text : String)
deriving DecidableEq, Repr

structure Bundle where
  actions : List Action
  /-- The word behind was taken as a value. -/
  tookNext : Bool := false

def single (next : Option String) (flag : Flag) : Except Fault Bundle :=
  if !flag.takesValue then .ok { actions := [.on flag] }
  else match next with
    | some text => .ok { actions := [.value flag text], tookNext := true }
    | none => .error misused

/-- An option that is called by a letter, and what is behind the letter. An option that has a value
takes all of it for the value; an option that has none leaves it to be read as letters. -/
def bundle (next : Option String) (flag : Flag) : List Char → Except Fault Bundle
  | [] => single next flag
  | letter :: rest =>
    if flag.takesValue then .ok { actions := [.value flag (String.ofList (letter :: rest))] }
    else match Flag.ofShort? letter with
      | none => .error misused
      | some another => do
        let more ← bundle next another rest
        return { more with actions := .on flag :: more.actions }

/-- What the options of one word ask for. Nothing can be attached to the long name of an option that
has no value. -/
def bundleOf (next : Option String) (flag : Flag) (short : Bool) :
    Option (List Char) → Except Fault Bundle
  | none => single next flag
  | some text =>
    if flag.takesValue then .ok { actions := [.value flag (String.ofList text)] }
    else if short && !text.isEmpty then bundle next flag text
    else .error misused

def perform (options : Options) : Action → Except Fault Options
  | .on flag => turnOn options flag
  | .value flag text => assign options flag text

def offered : List Token → Option String
  | .argument text :: _ => some text
  | _ => none

/-- Works off tokens. The separator goes with the program's name, on either side of it. -/
def read (reading : Reading) : List Token → Except Fault Reading
  | [] => .ok reading
  | .separator :: .argument text :: rest => read (reading.argument text) rest
  | .argument text :: .separator :: rest => read (reading.argument text) rest
  | .argument text :: rest => read (reading.argument text) rest
  | .separator :: rest => read { reading with leftover := true } rest
  | .unknown :: rest => read { reading with leftover := true } rest
  | .option flag short attached :: rest => do
    let bundle ← bundleOf (offered rest) flag short attached
    let options ← bundle.actions.foldlM perform reading.options
    let reading := { reading with options }
    if bundle.tookNext then read reading rest.tail else read reading rest
termination_by tokens => tokens.length

def parse (words : List String) : Except Fault Options := do
  let some tokens := Token.ofWords? words | throw misused
  let reading ← read {} tokens
  match reading.filename with
  | none => throw misused
  | some filename =>
    if reading.leftover then throw misused
    return { reading.options with filename }

end CommandLine

end Chip8
