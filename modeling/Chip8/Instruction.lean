import Chip8.Opcode

namespace Chip8

inductive Instruction where
  | sys (target : Address)
  | clear
  | ret
  | jump (target : Address)
  | call (target : Address)
  | skipIfByte (x : Nibble) (byte : UInt8)
  | skipUnlessByte (x : Nibble) (byte : UInt8)
  | skipIfEqual (x y : Nibble)
  | loadByte (x : Nibble) (byte : UInt8)
  | addByte (x : Nibble) (byte : UInt8)
  | copy (x y : Nibble)
  | or (x y : Nibble)
  | and (x y : Nibble)
  | xor (x y : Nibble)
  | add (x y : Nibble)
  | sub (x y : Nibble)
  | shiftRight (x y : Nibble)
  | subReverse (x y : Nibble)
  | shiftLeft (x y : Nibble)
  | skipIfDifferent (x y : Nibble)
  | loadIndex (target : Address)
  | jumpOffset (target : Address)
  | random (x : Nibble) (mask : UInt8)
  | draw (x y rows : Nibble)
  | skipIfKey (x : Nibble)
  | skipUnlessKey (x : Nibble)
  | readDelay (x : Nibble)
  | awaitKey (x : Nibble)
  | setDelay (x : Nibble)
  | setSound (x : Nibble)
  | addIndex (x : Nibble)
  | loadGlyph (x : Nibble)
  | storeDecimal (x : Nibble)
  | storeRegisters (x : Nibble)
  | loadRegisters (x : Nibble)
  | unmapped (word : Opcode)
deriving DecidableEq, Repr, Inhabited

namespace Instruction

def decodeSystem (word : Opcode) : Instruction :=
  if word.address.val = 0x0E0 then .clear
  else if word.address.val = 0x0EE then .ret
  else .sys word.address

def decodeArithmetic (word : Opcode) : Instruction :=
  match word.n.val with
  | 0x0 => .copy word.x word.y
  | 0x1 => .or word.x word.y
  | 0x2 => .and word.x word.y
  | 0x3 => .xor word.x word.y
  | 0x4 => .add word.x word.y
  | 0x5 => .sub word.x word.y
  | 0x6 => .shiftRight word.x word.y
  | 0x7 => .subReverse word.x word.y
  | 0xE => .shiftLeft word.x word.y
  | _ => .unmapped word

def decodeKey (word : Opcode) : Nat → Instruction
  | 0x9E => .skipIfKey word.x
  | 0xA1 => .skipUnlessKey word.x
  | _ => .unmapped word

def decodeMiscellaneous (word : Opcode) : Nat → Instruction
  | 0x07 => .readDelay word.x
  | 0x0A => .awaitKey word.x
  | 0x15 => .setDelay word.x
  | 0x18 => .setSound word.x
  | 0x1E => .addIndex word.x
  | 0x29 => .loadGlyph word.x
  | 0x33 => .storeDecimal word.x
  | 0x55 => .storeRegisters word.x
  | 0x65 => .loadRegisters word.x
  | _ => .unmapped word

/-- The instruction a word stands for. The first nibble picks the class. -/
def decode (word : Opcode) : Instruction :=
  match word.kind.val with
  | 0x0 => decodeSystem word
  | 0x1 => .jump word.address
  | 0x2 => .call word.address
  | 0x3 => .skipIfByte word.x word.byte
  | 0x4 => .skipUnlessByte word.x word.byte
  | 0x5 => if word.n.val = 0 then .skipIfEqual word.x word.y else .unmapped word
  | 0x6 => .loadByte word.x word.byte
  | 0x7 => .addByte word.x word.byte
  | 0x8 => decodeArithmetic word
  | 0x9 => if word.n.val = 0 then .skipIfDifferent word.x word.y else .unmapped word
  | 0xA => .loadIndex word.address
  | 0xB => .jumpOffset word.address
  | 0xC => .random word.x word.byte
  | 0xD => .draw word.x word.y word.n
  | 0xE => decodeKey word word.byte.toNat
  | _ => decodeMiscellaneous word word.byte.toNat

theorem decode_key (x y n : Nibble) :
    decode ⟨0xE, x, y, n⟩ = decodeKey ⟨0xE, x, y, n⟩ (16 * y + n) :=
  congrArg (decodeKey _) (Opcode.toNat_byte _)

theorem decode_miscellaneous (x y n : Nibble) :
    decode ⟨0xF, x, y, n⟩ = decodeMiscellaneous ⟨0xF, x, y, n⟩ (16 * y + n) :=
  congrArg (decodeMiscellaneous _) (Opcode.toNat_byte _)

def wordOfAddress (kind : Nibble) (target : Address) : Opcode :=
  { Opcode.ofNat target with kind }

def wordOfByte (kind x : Nibble) (byte : UInt8) : Opcode :=
  { Opcode.ofNat byte.toNat with kind, x }

def encode : Instruction → Opcode
  | sys target => wordOfAddress 0x0 target
  | clear => wordOfAddress 0x0 0x0E0
  | ret => wordOfAddress 0x0 0x0EE
  | jump target => wordOfAddress 0x1 target
  | call target => wordOfAddress 0x2 target
  | skipIfByte x byte => wordOfByte 0x3 x byte
  | skipUnlessByte x byte => wordOfByte 0x4 x byte
  | skipIfEqual x y => ⟨0x5, x, y, 0x0⟩
  | loadByte x byte => wordOfByte 0x6 x byte
  | addByte x byte => wordOfByte 0x7 x byte
  | copy x y => ⟨0x8, x, y, 0x0⟩
  | or x y => ⟨0x8, x, y, 0x1⟩
  | and x y => ⟨0x8, x, y, 0x2⟩
  | xor x y => ⟨0x8, x, y, 0x3⟩
  | add x y => ⟨0x8, x, y, 0x4⟩
  | sub x y => ⟨0x8, x, y, 0x5⟩
  | shiftRight x y => ⟨0x8, x, y, 0x6⟩
  | subReverse x y => ⟨0x8, x, y, 0x7⟩
  | shiftLeft x y => ⟨0x8, x, y, 0xE⟩
  | skipIfDifferent x y => ⟨0x9, x, y, 0x0⟩
  | loadIndex target => wordOfAddress 0xA target
  | jumpOffset target => wordOfAddress 0xB target
  | random x mask => wordOfByte 0xC x mask
  | draw x y rows => ⟨0xD, x, y, rows⟩
  | skipIfKey x => wordOfByte 0xE x 0x9E
  | skipUnlessKey x => wordOfByte 0xE x 0xA1
  | readDelay x => wordOfByte 0xF x 0x07
  | awaitKey x => wordOfByte 0xF x 0x0A
  | setDelay x => wordOfByte 0xF x 0x15
  | setSound x => wordOfByte 0xF x 0x18
  | addIndex x => wordOfByte 0xF x 0x1E
  | loadGlyph x => wordOfByte 0xF x 0x29
  | storeDecimal x => wordOfByte 0xF x 0x33
  | storeRegisters x => wordOfByte 0xF x 0x55
  | loadRegisters x => wordOfByte 0xF x 0x65
  | unmapped word => word

def registerText (x : Nibble) : String :=
  "V" ++ Text.hex 1 x.val

def addressText (target : Address) : String :=
  "0x" ++ Text.hex 3 target.val

def byteText (byte : UInt8) : String :=
  "0x" ++ Text.hexByte byte

def pairText (x y : Nibble) : String :=
  registerText x ++ ", " ++ registerText y

def registerByteText (x : Nibble) (byte : UInt8) : String :=
  registerText x ++ ", " ++ byteText byte

/-- The operands of a shift: the second register is an option, and is written in braces. -/
def shiftText (x y : Nibble) : String :=
  registerText x ++ " \x7b, " ++ registerText y ++ "\x7d"

def mnemonic : Instruction → String
  | sys target => "SYS " ++ addressText target
  | clear => "CLS"
  | ret => "RET"
  | jump target => "JP " ++ addressText target
  | call target => "CALL " ++ addressText target
  | skipIfByte x byte => "SE " ++ registerByteText x byte
  | skipUnlessByte x byte => "SNE " ++ registerByteText x byte
  | skipIfEqual x y => "SE " ++ pairText x y
  | loadByte x byte => "LD " ++ registerByteText x byte
  | addByte x byte => "ADD " ++ registerByteText x byte
  | copy x y => "LD " ++ pairText x y
  | or x y => "OR " ++ pairText x y
  | and x y => "AND " ++ pairText x y
  | xor x y => "XOR " ++ pairText x y
  | add x y => "ADD " ++ pairText x y
  | sub x y => "SUB " ++ pairText x y
  | shiftRight x y => "SHR " ++ shiftText x y
  | subReverse x y => "SUBN " ++ pairText x y
  | shiftLeft x y => "SHL " ++ shiftText x y
  | skipIfDifferent x y => "SNE " ++ pairText x y
  | loadIndex target => "LD I, " ++ addressText target
  | jumpOffset target => "JP V0, " ++ addressText target
  | random x mask => "RND " ++ registerByteText x mask
  | draw x y rows => "DRW " ++ pairText x y ++ ", 0x" ++ Text.hex 1 rows.val
  | skipIfKey x => "SKP " ++ registerText x
  | skipUnlessKey x => "SKNP " ++ registerText x
  | readDelay x => "LD " ++ registerText x ++ ", DT"
  | awaitKey x => "LD " ++ registerText x ++ ", K"
  | setDelay x => "LD DT, " ++ registerText x
  | setSound x => "LD ST, " ++ registerText x
  | addIndex x => "ADD I, " ++ registerText x
  | loadGlyph x => "LD F, " ++ registerText x
  | storeDecimal x => "LD B, " ++ registerText x
  | storeRegisters x => "LD [I], " ++ registerText x
  | loadRegisters x => "LD " ++ registerText x ++ ", [I]"
  | unmapped word => "??? 0x" ++ word.text

end Instruction

end Chip8
