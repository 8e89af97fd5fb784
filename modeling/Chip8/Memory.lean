import Chip8.Bank
import Chip8.Opcode

namespace Chip8

abbrev Memory := Bank 4096

namespace Memory

/-- Where programs begin; the bytes below belong to the interpreter. -/
def programStart : Nat := 0x200

def font : Array UInt8 :=
  #[0xF0, 0x90, 0x90, 0x90, 0xF0,
    0x20, 0x60, 0x20, 0x20, 0x70,
    0xF0, 0x10, 0xF0, 0x80, 0xF0,
    0xF0, 0x10, 0xF0, 0x10, 0xF0,
    0x90, 0x90, 0xF0, 0x10, 0x10,
    0xF0, 0x80, 0xF0, 0x10, 0xF0,
    0xF0, 0x80, 0xF0, 0x90, 0xF0,
    0xF0, 0x10, 0x20, 0x40, 0x40,
    0xF0, 0x90, 0xF0, 0x90, 0xF0,
    0xF0, 0x90, 0xF0, 0x10, 0xF0,
    0xF0, 0x90, 0xF0, 0x90, 0x90,
    0xE0, 0x90, 0xE0, 0x90, 0xE0,
    0xF0, 0x80, 0x80, 0x80, 0xF0,
    0xE0, 0x90, 0x90, 0x90, 0xE0,
    0xF0, 0x80, 0xF0, 0x80, 0xF0,
    0xF0, 0x80, 0xF0, 0x80, 0x80]

def glyphSize : Nat := 5

def place (address : Int) : Address :=
  ⟨(address % 4096).toNat, by omega⟩

def byte (memory : Memory) (address : Int) : UInt8 :=
  memory[place address]

def word (memory : Memory) (address : Int) : Opcode :=
  Opcode.ofBytes (memory.byte address) (memory.byte (address + 1))

def store (memory : Memory) (address : Int) (value : UInt8) : Except Fault Memory :=
  if (place address).val < programStart then .error (.reservedWrite (place address))
  else .ok (memory.set (place address) value)

/-- A program's store of bytes, one after the other. The bytes before a refused one stay. -/
def storeAll (memory : Memory) (address : Int) : List UInt8 → Memory × Option Fault
  | [] => (memory, none)
  | value :: values =>
    match memory.store address value with
    | .error fault => (memory, some fault)
    | .ok next => next.storeAll (address + 1) values

/-- Memory as it is before a program's first step: the font, the program, and zeros. -/
def image (program : Array UInt8) : Memory :=
  Vector.ofFn fun k =>
    if k.val < programStart then font.getD k 0 else program.getD (k - programStart) 0

def programSpace : Nat := 4096 - programStart

def checkProgram (program : Array UInt8) : Except Fault Unit :=
  if program.size > programSpace then .error (.programTooLarge program.size programSpace)
  else .ok ()

theorem place_val (address : Int) : ((place address).val : Int) = address % 4096 := by
  simp only [place]
  omega

theorem place_congr {a b : Int} (h : a % 4096 = b % 4096) : place a = place b := by
  simp only [place, h]

theorem byte_congr (memory : Memory) {a b : Int} (h : a % 4096 = b % 4096) :
    memory.byte a = memory.byte b := by
  simp only [byte, place_congr h]

theorem store_congr (memory : Memory) {a b : Int} (h : a % 4096 = b % 4096) (value : UInt8) :
    memory.store a value = memory.store b value := by
  simp only [store, place_congr h]

theorem storeAll_congr (memory : Memory) {a b : Int} (h : a % 4096 = b % 4096)
    (bytes : List UInt8) : memory.storeAll a bytes = memory.storeAll b bytes := by
  induction bytes generalizing memory a b with
  | nil => rfl
  | cons value values ih =>
    have next : (a + 1) % 4096 = (b + 1) % 4096 := by omega
    unfold storeAll
    rw [store_congr memory h]
    cases memory.store b value with
    | error fault => rfl
    | ok stored => exact ih stored next

end Memory

namespace Bank

variable {size : Nat}

def readMasked (bank : Bank size) (address : Int) : Except Fault UInt8 :=
  bank.read (address % 4096)

def writeMasked (bank : Bank size) (address value : Int) : Except Fault (Bank size) :=
  if address % 4096 < Memory.programStart then
    .error (.reservedWrite (address % 4096).toNat)
  else bank.put (address % 4096) (value % 256)

def readWord (bank : Bank size) (address : Int) : Except Fault Opcode := do
  let high ← bank.readMasked address
  let low ← bank.readMasked (address + 1)
  return Opcode.ofBytes high low

def loadFont (bank : Bank size) : Except Fault (Bank size) :=
  bank.writeBlock 0 Memory.font

def loadProgram (bank : Bank size) (program : Array UInt8) : Except Fault (Bank size) := do
  Memory.checkProgram program
  bank.writeBlock Memory.programStart program

end Bank

end Chip8
