import Chip8.Opcode
import Chip8.Processor
import Mathlib.Logic.Function.Basic

namespace Chip8

/-- What instructions speak of, as plain numbers: registers, timers and cells below 256, pixels 0 or
1, and stacked addresses oldest first. -/
@[ext]
structure Console where
  v : Nibble → Nat
  i : Nat
  pc : Nat
  stack : List Nat
  memory : Address → Nat
  pixel : Fin 64 → Fin 32 → Nat
  delay : Nat
  sound : Nat
  down : Nibble → Bool
  noise : Noise
  phase : Phase
  keyRegister : Nibble

namespace Console

def set (c : Console) (x : Nibble) (value : Nat) : Console :=
  { c with v := Function.update c.v x value }

def setFlag (c : Console) (value : Nat) : Console :=
  c.set 0xF value

def next (c : Console) : Console :=
  { c with pc := (c.pc + 2) % 4096 }

def skip (c : Console) (condition : Bool) : Console :=
  if condition then c.next.next else c.next

def cell (c : Console) (address : Nat) : Nat :=
  c.memory (Fin.ofNat 4096 address)

def storable (c : Console) (count : Nat) : Bool :=
  (List.range count).all fun k => 0x200 ≤ (c.i + k) % 4096

def store (c : Console) (count : Nat) (bytes : Nat → Nat) : Option Console :=
  if c.storable count then
    some { c with
      memory := fun address =>
        ((List.range count).find? fun k => (c.i + k) % 4096 == address.val).elim
          (c.memory address) bytes }
  else none

def moveIndex (c : Console) (dialect : Dialect) (count : Nat) : Console :=
  if dialect.movesIndex then { c with i := (c.i + count) % 65536 } else c

def covers (c : Console) (x y : Nibble) (rows : Nat) (column : Fin 64) (line : Fin 32) : Bool :=
  (List.range rows).any fun i => (List.range 8).any fun j =>
    (c.cell (c.i + i)).testBit (7 - j) && (c.v x + j) % 64 == column && (c.v y + i) % 32 == line

def draw (c : Console) (x y : Nibble) (rows : Nat) : Console :=
  let collision := ∃ column line, c.covers x y rows column line ∧ c.pixel column line = 1
  { c with
    pixel := fun column line =>
      if c.covers x y rows column line then 1 - c.pixel column line
      else c.pixel column line }.setFlag (if collision then 1 else 0)

/-- The lowest key that is down goes into the register; without one the instruction stays. -/
def await (c : Console) (x : Nibble) : Console :=
  match (List.finRange 16).find? c.down with
  | some key => { c.next.set x key with keyRegister := x }
  | none => { c with phase := .awaitingKey, keyRegister := x }

def shifted (c : Console) (dialect : Dialect) (x y : Nibble) : Nat :=
  c.v (if dialect.shiftsSecond then y else x)

def logic (c : Console) (dialect : Dialect) (x : Nibble) (value : Nat) : Console :=
  if dialect.clearsFlag then (c.next.set x value).setFlag 0 else c.next.set x value

end Console

/-- The digits of a word, where a missing one stands for any digit. -/
structure Pattern where
  kind : Option Nibble
  x : Option Nibble
  y : Option Nibble
  n : Option Nibble

namespace Pattern

def digit (character : Char) : Option Nibble :=
  if character = 'X' ∨ character = 'Y' ∨ character = 'N' then none
  else if character.isDigit then some (Fin.ofNat 16 (character.toNat - 48))
  else some (Fin.ofNat 16 (character.toNat - 55))

def of (kind x y n : Char) : Pattern :=
  ⟨digit kind, digit x, digit y, digit n⟩

def fits (pattern : Pattern) (word : Opcode) : Bool :=
  pattern.kind.all (· == word.kind) && pattern.x.all (· == word.x) &&
    pattern.y.all (· == word.y) && pattern.n.all (· == word.n)

end Pattern

structure Row where
  pattern : Pattern
  effect : Dialect → Opcode → Console → Option Console

/-- The rows of the instruction table; where two fit, the earlier one counts. -/
def table : List Row :=
  [⟨.of '0' '0' 'E' '0', fun _ _ c => some { c.next with pixel := fun _ _ => 0 }⟩,
   ⟨.of '0' '0' 'E' 'E', fun _ _ c =>
      c.stack.getLast?.map fun address => { c with stack := c.stack.dropLast, pc := address }⟩,
   ⟨.of '0' 'N' 'N' 'N', fun _ _ c => some c.next⟩,
   ⟨.of '1' 'N' 'N' 'N', fun _ w c => some { c with pc := w.address }⟩,
   ⟨.of '2' 'N' 'N' 'N', fun _ w c =>
      if c.stack.length < 16 then
        some { c with stack := c.stack ++ [(c.pc + 2) % 4096], pc := w.address }
      else none⟩,
   ⟨.of '3' 'X' 'N' 'N', fun _ w c => some (c.skip (c.v w.x == 16 * w.y + w.n))⟩,
   ⟨.of '4' 'X' 'N' 'N', fun _ w c => some (c.skip (c.v w.x != 16 * w.y + w.n))⟩,
   ⟨.of '5' 'X' 'Y' '0', fun _ w c => some (c.skip (c.v w.x == c.v w.y))⟩,
   ⟨.of '6' 'X' 'N' 'N', fun _ w c => some (c.next.set w.x (16 * w.y + w.n))⟩,
   ⟨.of '7' 'X' 'N' 'N', fun _ w c =>
      some (c.next.set w.x ((c.v w.x + (16 * w.y + w.n)) % 256))⟩,
   ⟨.of '8' 'X' 'Y' '0', fun _ w c => some (c.next.set w.x (c.v w.y))⟩,
   ⟨.of '8' 'X' 'Y' '1', fun d w c => some (c.logic d w.x (c.v w.x ||| c.v w.y))⟩,
   ⟨.of '8' 'X' 'Y' '2', fun d w c => some (c.logic d w.x (c.v w.x &&& c.v w.y))⟩,
   ⟨.of '8' 'X' 'Y' '3', fun d w c => some (c.logic d w.x (c.v w.x ^^^ c.v w.y))⟩,
   ⟨.of '8' 'X' 'Y' '4', fun _ w c =>
      some ((c.next.set w.x ((c.v w.x + c.v w.y) % 256)).setFlag
        (if c.v w.x + c.v w.y > 255 then 1 else 0))⟩,
   ⟨.of '8' 'X' 'Y' '5', fun _ w c =>
      some ((c.next.set w.x ((c.v w.x + 256 - c.v w.y) % 256)).setFlag
        (if c.v w.x > c.v w.y then 1 else 0))⟩,
   ⟨.of '8' 'X' 'Y' '6', fun d w c =>
      some ((c.next.set w.x (c.shifted d w.x w.y / 2)).setFlag (c.shifted d w.x w.y % 2))⟩,
   ⟨.of '8' 'X' 'Y' '7', fun _ w c =>
      some ((c.next.set w.x ((c.v w.y + 256 - c.v w.x) % 256)).setFlag
        (if c.v w.y > c.v w.x then 1 else 0))⟩,
   ⟨.of '8' 'X' 'Y' 'E', fun d w c =>
      some ((c.next.set w.x (c.shifted d w.x w.y * 2 % 256)).setFlag
        (c.shifted d w.x w.y / 128))⟩,
   ⟨.of '9' 'X' 'Y' '0', fun _ w c => some (c.skip (c.v w.x != c.v w.y))⟩,
   ⟨.of 'A' 'N' 'N' 'N', fun _ w c => some { c.next with i := w.address }⟩,
   ⟨.of 'B' 'N' 'N' 'N', fun _ w c => some { c with pc := (c.v 0 + w.address) % 4096 }⟩,
   ⟨.of 'C' 'X' 'N' 'N', fun _ w c =>
      some { c.next.set w.x (c.noise.next.toNat &&& (16 * w.y + w.n)) with
        noise := c.noise.rest }⟩,
   ⟨.of 'D' 'X' 'Y' 'N', fun _ w c => some (c.next.draw w.x w.y w.n)⟩,
   ⟨.of 'E' 'X' '9' 'E', fun _ w c => some (c.skip (c.down (Fin.ofNat 16 (c.v w.x))))⟩,
   ⟨.of 'E' 'X' 'A' '1', fun _ w c => some (c.skip (!c.down (Fin.ofNat 16 (c.v w.x))))⟩,
   ⟨.of 'F' 'X' '0' '7', fun _ w c => some (c.next.set w.x c.delay)⟩,
   ⟨.of 'F' 'X' '0' 'A', fun _ w c => some (c.await w.x)⟩,
   ⟨.of 'F' 'X' '1' '5', fun _ w c => some { c.next with delay := c.v w.x }⟩,
   ⟨.of 'F' 'X' '1' '8', fun _ w c => some { c.next with sound := c.v w.x }⟩,
   ⟨.of 'F' 'X' '1' 'E', fun _ w c => some { c.next with i := (c.i + c.v w.x) % 65536 }⟩,
   ⟨.of 'F' 'X' '2' '9', fun _ w c => some { c.next with i := c.v w.x * 5 }⟩,
   ⟨.of 'F' 'X' '3' '3', fun _ w c => c.next.store 3 fun k =>
      if k = 0 then c.v w.x / 100 else if k = 1 then c.v w.x / 10 % 10 else c.v w.x % 10⟩,
   ⟨.of 'F' 'X' '5' '5', fun d w c =>
      (c.next.store (w.x + 1) fun k => c.v (Fin.ofNat 16 k)).map (·.moveIndex d (w.x + 1))⟩,
   ⟨.of 'F' 'X' '6' '5', fun d w c =>
      some ({ c.next with v := fun k => if k ≤ w.x then c.cell (c.i + k) else c.v k }.moveIndex d
        (w.x + 1))⟩]

example : table.length = 35 := rfl

def Opcode.row (word : Opcode) : Option Row :=
  table.find? (·.pattern.fits word)

namespace Console

def word (c : Console) : Opcode :=
  Opcode.ofNat (256 * c.cell c.pc + c.cell (c.pc + 1))

def run (c : Console) (dialect : Dialect) (word : Opcode) : Option Console :=
  match word.row with
  | some row => row.effect dialect word c
  | none => if dialect.strict then none else some c.next

def step (c : Console) (dialect : Dialect) : Option Console :=
  c.run dialect c.word

end Console

end Chip8
