import Chip8.Text.Numeral

namespace Chip8.CommandLine

inductive Flag where
  | help
  | stepsPerFrame
  | renderer
  | scale
  | mute
  | keymap
  | cursorMode
  | palette
  | shift
  | load
  | logic
  | strict
  | debug
deriving DecidableEq, Repr, Inhabited

namespace Flag

def all : List Flag :=
  [help, stepsPerFrame, renderer, scale, mute, keymap, cursorMode, palette, shift, load, logic,
    strict, debug]

def short? : Flag → Option Char
  | help => some 'h'
  | stepsPerFrame => some 'c'
  | renderer => some 'r'
  | scale => some 's'
  | mute => some 'm'
  | keymap => some 'k'
  | debug => some 'd'
  | _ => none

def long : Flag → String
  | help => "help"
  | stepsPerFrame => "steps_per_frame"
  | renderer => "renderer"
  | scale => "scale"
  | mute => "mute"
  | keymap => "keymap"
  | cursorMode => "curses_cursor_mode"
  | palette => "pygame_palette"
  | shift => "shift_quirks"
  | load => "load_quirks"
  | logic => "logic_quirks"
  | strict => "strict"
  | debug => "debug"

def takesValue : Flag → Bool
  | help => false
  | strict => false
  | debug => false
  | _ => true

def ofShort? (letter : Char) : Option Flag :=
  all.find? fun flag => flag.short? = some letter

def ofLong? (name : List Char) : Option Flag :=
  all.find? fun flag => flag.long.toList = name

def beginning (name : List Char) : List Flag :=
  all.filter fun flag => name.isPrefixOf flag.long.toList

end Flag

def separatorWord : String := "--"

inductive Token where
  | argument (text : String)
  | separator
  | option (flag : Flag) (short : Bool) (attached : Option (List Char))
  /-- It looks like an option, but there is none. -/
  | unknown
deriving DecidableEq, Repr, Inhabited

namespace Token

def cutEquals (chars : List Char) : List Char × Option (List Char) :=
  match chars.span (· != '=') with
  | (name, _ :: value) => (name, some value)
  | (name, []) => (name, none)

def fullName? (name : List Char) (attached : Option (List Char)) : Option Token :=
  match name with
  | '-' :: '-' :: name => (Flag.ofLong? name).map (option · false attached)
  | ['-', letter] => (Flag.ofShort? letter).map (option · true attached)
  | _ => none

/-- The options that a word may mean that is not the full name of one. -/
def candidates (chars : List Char) : List Token :=
  match chars with
  | '-' :: '-' :: name =>
    let (name, attached) := cutEquals name
    (Flag.beginning name).map (option · false attached)
  | '-' :: letter :: value =>
    (Flag.ofShort? letter).toList.map (option · true (some value))
  | _ => []

def ofWord? (word : String) : Option Token :=
  let chars := word.toList
  let (name, attached) := cutEquals chars
  if chars.head? ≠ some '-' then some (argument word)
  else match fullName? chars none with
    | some token => some token
    | none =>
      if chars.length = 1 then some (argument word)
      else match if attached.isSome then fullName? name attached else none with
        | some token => some token
        | none =>
          match candidates chars with
          | [token] => some token
          | [] =>
            if Text.Numeral.looksNegative word || chars.contains ' ' then some (argument word)
            else some unknown
          | _ => none

/-- The tokens of a command line, or none if a word can mean several options. -/
def ofWords? : List String → Option (List Token)
  | [] => some []
  | word :: words =>
    if word = separatorWord then some (separator :: words.map argument)
    else do
      let token ← ofWord? word
      let tokens ← ofWords? words
      return token :: tokens

end Token

end Chip8.CommandLine
