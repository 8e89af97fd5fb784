import Chip8.Trace

namespace Chip8

namespace Machine

def combine (m : Machine) (x y : Nibble) (f : UInt8 → UInt8 → UInt8) : Machine :=
  m.setRegister x (f (m.register x) (m.register y))

/-- As `combine`, with a flag that is written after the result. -/
def combineFlag (m : Machine) (x y : Nibble) (f : UInt8 → UInt8 → UInt8)
    (flag : UInt8 → UInt8 → Bool) : Machine :=
  (m.combine x y f).setFlag (flag (m.register x) (m.register y))

/-- A logic operation, which clears the flag register in some dialects. -/
def combineLogic (m : Machine) (x y : Nibble) (f : UInt8 → UInt8 → UInt8) : Machine :=
  let done := m.combine x y f
  if m.settings.dialect.clearsFlag then done.setRegister flagRegister 0 else done

def shiftOperand (m : Machine) (x y : Nibble) : UInt8 :=
  m.register (if m.settings.dialect.shiftsSecond then y else x)

def skipIf (m : Machine) (condition : Bool) : Machine :=
  if condition then m.advance else m

/-- The index register past the registers up to `x`, in the dialects that move it. -/
def indexMoved (m : Machine) (x : Nibble) : Machine :=
  if m.settings.dialect.movesIndex then m.setIndex ((m.processor.i + x.val + 1) % 65536) else m

def spriteRows (m : Machine) (rows : Nibble) : List Int :=
  (List.range rows).map fun (row : Nat) => ((m.memory.byte (m.processor.i + row)).toNat : Int)

def drawSprite (m : Machine) (x y rows : Nibble) : Machine :=
  let (screen, collision) :=
    m.screen.draw (m.register x).toNat (m.register y).toNat (m.spriteRows rows)
  { m with screen }.setFlag collision

def keyDown (m : Machine) (x : Nibble) : Bool :=
  m.keypad.latch.isDown (m.register x).toNat

/-- Looks at the keypad. If a key is down, the awaiting register receives the lowest one and the
machine goes on. -/
def poll (m : Machine) : Machine :=
  match m.keypad.latch.firstDown with
  | none => m
  | some key =>
    let next := (m.setRegister m.processor.keyRegister (UInt8.ofNat key)).advance
    { next with processor.phase := .running }

/-- Goes back onto the waiting instruction and looks at the keypad for the first time. -/
def beginWait (m : Machine) (x : Nibble) : Machine :=
  let back := m.retreat
  { back with processor.keyRegister := x, processor.phase := .awaitingKey }.poll

def decimalDigits (value : UInt8) : List UInt8 :=
  [value / 100, value / 10 % 10, value % 10]

def registersUpTo (m : Machine) (x : Nibble) : List UInt8 :=
  m.processor.v.toList.take (x.val + 1)

def loadUpTo (m : Machine) (x : Nibble) : Machine :=
  { m with processor.v := m.processor.v.mapIdx fun k old =>
      if k ≤ x.val then m.memory.byte (m.processor.i + k) else old }

def storeAtIndex (bytes : List UInt8) : EStateM Fault Machine Unit := fun m =>
  let (memory, fault) := m.memory.storeAll m.processor.i bytes
  match fault with
  | none => .ok () { m with memory }
  | some fault => .error fault { m with memory }

def callTo (target : Address) : EStateM Fault Machine Unit := fun m =>
  match m.stack.push m.processor.pc with
  | .error fault => .error fault m
  | .ok stack => .ok () ({ m with stack }.jumpTo target.val)

def returnBack : EStateM Fault Machine Unit := fun m =>
  match m.stack.pop with
  | .error fault => .error fault m
  | .ok (address, stack) => .ok () ({ m with stack }.jumpTo address)

/-- A word outside the instruction set does nothing, or halts a strict machine. -/
def passUnmapped : EStateM Fault Machine Unit := fun m =>
  if m.settings.dialect.strict then
    .error (.unmappedOpcode
      (m.crashReport "Opcode is not part of the CHIP-8 instruction set")) m
  else .ok () m

def execute : Instruction → EStateM Fault Machine Unit
  | .sys _ => pure ()
  | .clear => modify fun m => { m with screen := Screen.dark 64 32 }
  | .ret => returnBack
  | .jump target => modify (·.jumpTo target.val)
  | .call target => callTo target
  | .skipIfByte x byte => modify fun m => m.skipIf (m.register x == byte)
  | .skipUnlessByte x byte => modify fun m => m.skipIf (m.register x != byte)
  | .skipIfEqual x y => modify fun m => m.skipIf (m.register x == m.register y)
  | .loadByte x byte => modify (·.setRegister x byte)
  | .addByte x byte => modify fun m => m.setRegister x (m.register x + byte)
  | .copy x y => modify fun m => m.setRegister x (m.register y)
  | .or x y => modify (·.combineLogic x y (· ||| ·))
  | .and x y => modify (·.combineLogic x y (· &&& ·))
  | .xor x y => modify (·.combineLogic x y (· ^^^ ·))
  | .add x y => modify (·.combineFlag x y (· + ·) fun a b => a.toNat + b.toNat > 255)
  | .sub x y => modify (·.combineFlag x y (· - ·) fun a b => a > b)
  | .shiftRight x y => modify fun m =>
      let value := m.shiftOperand x y
      (m.setRegister x (value >>> 1)).setFlag (value.toNat.testBit 0)
  | .subReverse x y => modify (·.combineFlag x y (fun a b => b - a) fun a b => b > a)
  | .shiftLeft x y => modify fun m =>
      let value := m.shiftOperand x y
      (m.setRegister x (value <<< 1)).setFlag (value.toNat.testBit 7)
  | .skipIfDifferent x y => modify fun m => m.skipIf (m.register x != m.register y)
  | .loadIndex target => modify (·.setIndex target.val)
  | .jumpOffset target => modify fun m =>
      m.jumpTo ((((m.register 0).toNat : Int) + target.val) % 4096)
  | .random x mask => modify fun m =>
      { m with noise := m.noise.rest }.setRegister x (m.noise.next &&& mask)
  | .draw x y rows => modify (·.drawSprite x y rows)
  | .skipIfKey x => modify fun m => m.skipIf (m.keyDown x)
  | .skipUnlessKey x => modify fun m => m.skipIf (!m.keyDown x)
  | .readDelay x => modify fun m => m.setRegister x m.timers.delay
  | .awaitKey x => modify (·.beginWait x)
  | .setDelay x => modify fun m =>
      { m with timers := m.timers.setDelay (m.register x).toNat }
  | .setSound x => modify fun m =>
      { m with timers := m.timers.setSound (m.register x).toNat }
  | .addIndex x => modify fun m => m.setIndex ((m.processor.i + (m.register x).toNat) % 65536)
  | .loadGlyph x => modify fun m => m.setIndex (Memory.glyphSize * (m.register x).toNat)
  | .storeDecimal x => do
      let m ← get
      storeAtIndex (decimalDigits (m.register x))
  | .storeRegisters x => do
      let m ← get
      storeAtIndex (m.registersUpTo x)
      modify (·.indexMoved x)
  | .loadRegisters x => modify fun m => (m.loadUpTo x).indexMoved x
  | .unmapped _ => passUnmapped

def fetched (m : Machine) : Machine :=
  { m with
    processor.fetchedAt := m.processor.pc
    processor.opcode := m.memory.word m.processor.pc }.advance

def step : EStateM Fault Machine Unit := fun m =>
  match m.processor.phase with
  | .awaitingKey => .ok () m.poll
  | .running =>
    let next := m.fetched
    let instruction := Instruction.decode next.processor.opcode
    execute instruction (next.traced instruction)

def steps : Nat → EStateM Fault Machine Unit
  | 0 => pure ()
  | n + 1 => do
    step
    steps n

end Machine

end Chip8
