import Chip8.Text.Hex
import Chip8.Text.Quoted

namespace Chip8

inductive Fault where
  | bankOverflow
  | cellOutOfRange
  | locationTooWide
  | sizeTooWide
  | sizeNegative
  | blockTooLong
  | memoryExhausted
  | repetitionTooLong
  /-- A text should be filled up to a width that is no size. -/
  | widthTooWide
  | blockLengthMismatch
  | valueNotByte
  | programTooLarge (bytes space : Nat)
  | reservedWrite (address : Nat)
  | stackOverflow
  | stackUnderflow
  | unmappedOpcode (report : String)
  /-- The program halted the machine; the report was written before anything was released. -/
  | halted (report : String) (cause : Fault)
  | screenNotPositive
  | keyCount
  | keyBlank (key : Nat)
  | keyRepeated
  | paletteTooLong
  | colourLength
  | colourDigits
  | colourNegative
  | colourMissing
  | frameTooLong
  /-- Pixels cannot be placed on a screen without columns. -/
  | noColumns
  | codeNotCharacter
  | codeTooWide
  | timeTooLarge
  | windowUnavailable
  | terminalUnavailable
  | displayUnavailable
  | rendererUnknown
  | argumentMissing (name : String)
  | textBlank
  | textAbsent
  | stepsBlank
  | windowWidthBlank
  | pixelWidthBlank
  | cursorBlank
  | cursorAbsent
  | cursorTooWide
  | nameHasNul
  | nameAbsent
  | fileMissing (name : String)
  | fileIsDirectory (name : String)
  | parentNotDirectory (name : String)
  | nameTooLong (name : String)
  | interrupted
  | exited (status : Nat)
deriving DecidableEq, Repr, Inhabited

namespace Fault

def message : Fault → String
  | bankOverflow => "Memory overflow"
  | cellOutOfRange => "index out of bounds on dimension 1"
  | locationTooWide => "cannot fit 'int' into an index-sized integer"
  | sizeTooWide => "cannot fit 'int' into an index-sized integer"
  | sizeNegative => "negative count"
  | blockTooLong => "byte string is too large"
  | memoryExhausted => ""
  | repetitionTooLong => "repeated bytes are too long"
  | widthTooWide => "Python int too large to convert to C ssize_t"
  | blockLengthMismatch => "memoryview assignment: lvalue and rvalue have different structures"
  | valueNotByte => "memoryview: invalid value for format 'B'"
  | programTooLarge bytes space =>
    "Program is " ++ toString bytes ++ " bytes, but only " ++ toString space ++
      " bytes of program space are available"
  | reservedWrite address =>
    "Write to reserved interpreter memory at 0x" ++ Text.hex 3 address
  | stackOverflow => "Stack overflow"
  | stackUnderflow => "Stack underflow"
  | unmappedOpcode report => report
  | halted report _ => report
  | screenNotPositive => "Display dimensions must be positive"
  | keyCount =>
    "Incorrect number of keys defined -- 16 required.  Use commas to split symbols"
  | keyBlank key => "Empty key symbol defined for key 0x" ++ Text.hex 1 key
  | keyRepeated => "Duplicate keys defined"
  | paletteTooLong => "Too many palette colours defined."
  | colourLength => "Palette colours must all be 6 hex digits long."
  | colourDigits => "Invalid palette colour defined."
  | colourNegative => "bytes must be in range(0, 256)"
  | colourMissing => "list index out of range"
  | frameTooLong => "index out of range"
  | noColumns => "integer division or modulo by zero"
  | codeNotCharacter => "chr() arg not in range(0x110000)"
  | codeTooWide => "Python int too large to convert to C int"
  | timeTooLarge => "integer division result too large for a float"
  | windowUnavailable => "PyGame does not appear to be installed."
  | terminalUnavailable => "Curses (or Windows-Curses) does not appear to be installed."
  | displayUnavailable =>
    "Neither PyGame nor Curses (or Windows-Curses) appear to be installed."
  | rendererUnknown =>
    "cannot access local variable 'Renderer' where it is not associated with a value"
  | argumentMissing name => "'" ++ name ++ "'"
  | textBlank => "'list' object has no attribute 'split'"
  | textAbsent => "'NoneType' object has no attribute 'split'"
  | stepsBlank => "'list' object cannot be interpreted as an integer"
  | windowWidthBlank => "unsupported operand type(s) for //: 'list' and 'int'"
  | pixelWidthBlank => "can't multiply sequence by non-int of type 'list'"
  | cursorBlank => "'list' object cannot be interpreted as an integer"
  | cursorAbsent => "'NoneType' object cannot be interpreted as an integer"
  | cursorTooWide => "Python int too large to convert to C int"
  | nameHasNul => "embedded null byte"
  | nameAbsent => "expected str, bytes or os.PathLike object, not NoneType"
  | fileMissing name => "[Errno 2] No such file or directory: " ++ Text.quoted name
  | fileIsDirectory name => "[Errno 21] Is a directory: " ++ Text.quoted name
  | parentNotDirectory name => "[Errno 20] Not a directory: " ++ Text.quoted name
  | nameTooLong name => "[Errno 36] File name too long: " ++ Text.quoted name
  | interrupted => ""
  | exited status => toString status

end Fault

end Chip8
