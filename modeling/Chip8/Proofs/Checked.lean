import Chip8.Execution

namespace Chip8.Machine.Checked

def attempt {α : Type} (result : Except Fault α) : EStateM Fault Machine α := fun m =>
  match result with
  | .ok a => .ok a m
  | .error fault => .error fault m

def register (x : Int) : EStateM Fault Machine Nat := do
  let m ← get
  let value ← attempt (m.processor.v.read x)
  return value.toNat

def setRegister (x value : Int) : EStateM Fault Machine Unit := do
  let m ← get
  let v ← attempt (m.processor.v.put x value)
  set { m with processor.v := v }

def setFlag (condition : Bool) : EStateM Fault Machine Unit :=
  setRegister flagRegister (if condition then 1 else 0)

def byte (address : Int) : EStateM Fault Machine Nat := do
  let m ← get
  let value ← attempt (m.memory.readMasked address)
  return value.toNat

def store (address value : Int) : EStateM Fault Machine Unit := do
  let m ← get
  let memory ← attempt (m.memory.writeMasked address value)
  set { m with memory }

def keyDown (key : Int) : EStateM Fault Machine Bool := do
  let m ← get
  let k ← attempt (Bank.cell 16 (key % 16))
  return m.keypad.latch[k]

def toggle (x y : Int) : EStateM Fault Machine Bool := do
  let m ← get
  let location := y % 32 * 64 + x % 64
  let pixel ← attempt (m.screen.cells.read location)
  let cells ← attempt (m.screen.cells.write location (pixel ^^^ 1).toNat)
  set { m with screen.cells := cells }
  return pixel == 1

def toggleAll : List (Int × Int) → EStateM Fault Machine Bool
  | [] => return false
  | (x, y) :: places => do
    let hit ← toggle x y
    let hits ← toggleAll places
    return hit || hits

def sprite (address : Int) (row : Nat) : Nat → EStateM Fault Machine (List Int)
  | 0 => return []
  | count + 1 => do
    let value ← byte (address + row)
    let rest ← sprite address (row + 1) count
    return value :: rest

def storeEach (address : Int) : List (EStateM Fault Machine Nat) → EStateM Fault Machine Unit
  | [] => return
  | value :: values => do
    store address (← value)
    storeEach (address + 1) values

def loadFrom (address : Int) (k : Nat) : Nat → EStateM Fault Machine Unit
  | 0 => return
  | count + 1 => do
    setRegister k (← byte (address + k))
    loadFrom address (k + 1) count

def skipIf (condition : Bool) : EStateM Fault Machine Unit :=
  modify fun m => m.skipIf condition

def combine (x y : Nibble) (f : Nat → Nat → Int) : EStateM Fault Machine Unit := do
  setRegister x (f (← register x) (← register y))

def combineFlag (x y : Nibble) (f : Nat → Nat → Int) (flag : Nat → Nat → Bool) :
    EStateM Fault Machine Unit := do
  let a ← register x
  let b ← register y
  setRegister x (f a b)
  setFlag (flag a b)

def clearFlag : EStateM Fault Machine Unit := do
  let m ← get
  if m.settings.dialect.clearsFlag then setRegister flagRegister 0

def operand (x y : Nibble) : EStateM Fault Machine Nat := do
  let m ← get
  if m.settings.dialect.shiftsSecond then register y else register x

def shift (x y : Nibble) (f bit : Nat → Nat) : EStateM Fault Machine Unit := do
  let value ← operand x y
  setRegister x (f value)
  setRegister flagRegister (bit value)

def poll : EStateM Fault Machine Unit := do
  let m ← get
  match m.keypad.latch.firstDown with
  | none => return
  | some key =>
    setRegister m.processor.keyRegister key
    modify fun m => { m.advance with processor.phase := .running }

/-- Clearing the screen takes as many new bytes as there are pixels. -/
def execute (room : Room) : Instruction → EStateM Fault Machine Unit
  | .sys _ => return
  | .clear => do
    let m ← get
    let cells ← attempt (Bank.clear m.screen.cells room)
    set { m with screen.cells := cells }
  | .ret => returnBack
  | .jump target => modify (·.jumpTo target.val)
  | .call target => callTo target
  | .skipIfByte x byte => do skipIf ((← register x) == byte.toNat)
  | .skipUnlessByte x byte => do skipIf ((← register x) != byte.toNat)
  | .skipIfEqual x y => do skipIf ((← register x) == (← register y))
  | .loadByte x byte => setRegister x byte.toNat
  | .addByte x byte => do setRegister x (((← register x) + byte.toNat) % 256)
  | .copy x y => do setRegister x (← register y)
  | .or x y => do
    combine x y fun a b => (a ||| b : Nat)
    clearFlag
  | .and x y => do
    combine x y fun a b => (a &&& b : Nat)
    clearFlag
  | .xor x y => do
    combine x y fun a b => (a ^^^ b : Nat)
    clearFlag
  | .add x y => combineFlag x y (fun a b => (a + b) % 256) fun a b => a + b > 255
  | .sub x y => combineFlag x y (fun a b => (a - b) % 256) fun a b => a > b
  | .shiftRight x y => shift x y (· / 2) (· % 2)
  | .subReverse x y => combineFlag x y (fun a b => (b - a) % 256) fun a b => b > a
  | .shiftLeft x y => shift x y (· * 2 % 256) (· / 128 % 2)
  | .skipIfDifferent x y => do skipIf ((← register x) != (← register y))
  | .loadIndex target => modify (·.setIndex target.val)
  | .jumpOffset target => do
    let offset ← register 0
    modify (·.jumpTo ((offset + target.val) % 4096))
  | .random x mask => do
    let m ← get
    set { m with noise := m.noise.rest }
    setRegister x (m.noise.next &&& mask).toNat
  | .draw x y rows => do
    let left ← register x
    let top ← register y
    let m ← get
    let rows ← sprite m.processor.i 0 rows
    setFlag (← toggleAll (Screen.points left top rows))
  | .skipIfKey x => do skipIf (← keyDown (← register x))
  | .skipUnlessKey x => do skipIf (!(← keyDown (← register x)))
  | .readDelay x => do
    let m ← get
    setRegister x m.timers.delay.toNat
  | .awaitKey x => do
    modify fun m => { m.retreat with
      processor.keyRegister := x
      processor.phase := .awaitingKey }
    poll
  | .setDelay x => do
    let value ← register x
    modify fun m => { m with timers := m.timers.setDelay value }
  | .setSound x => do
    let value ← register x
    modify fun m => { m with timers := m.timers.setSound value }
  | .addIndex x => do
    let value ← register x
    modify fun m => m.setIndex ((m.processor.i + value) % 65536)
  | .loadGlyph x => do
    let value ← register x
    modify (·.setIndex (Memory.glyphSize * value))
  | .storeDecimal x => do
    let value ← register x
    let m ← get
    storeEach m.processor.i [return value / 100, return value / 10 % 10, return value % 10]
  | .storeRegisters x => do
    let m ← get
    storeEach m.processor.i ((List.range (x + 1)).map fun (k : Nat) => register k)
    modify (·.indexMoved x)
  | .loadRegisters x => do
    let m ← get
    loadFrom m.processor.i 0 (x + 1)
    modify (·.indexMoved x)
  | .unmapped _ => passUnmapped

def step (room : Room) : EStateM Fault Machine Unit := do
  let m ← get
  match m.processor.phase with
  | .awaitingKey => poll
  | .running =>
    let word ← attempt (m.memory.readWord m.processor.pc)
    let instruction := Instruction.decode word
    set ({ m with
      processor.fetchedAt := m.processor.pc
      processor.opcode := word }.advance.traced instruction)
    execute room instruction

end Chip8.Machine.Checked
