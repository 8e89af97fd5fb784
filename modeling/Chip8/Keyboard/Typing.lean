import Chip8.Keypad

namespace Chip8

inductive Typed where
  | code (value : Nat)
  | quit
deriving DecidableEq, Repr, Inhabited

namespace Typed

/-- The symbol of a character. A code without a character of its own has none. -/
def symbol? (code : Nat) : Option String :=
  if code < 0xD800 ∨ (0xDFFF < code ∧ code < 0x110000) then
    some (String.singleton (Char.ofNat code))
  else none

end Typed

inductive Reader where
  | looking
  | reading
  | holding (entry : Typed)
  | finished
deriving DecidableEq, Repr, Inhabited

/-- The reader and the two queues between it and the run. -/
structure Typing where
  reader : Reader
  queue : List Typed
  stopRequested : Bool
deriving DecidableEq, Repr, Inhabited

namespace Typing

def capacity : Nat := 16

def quitCodes : List Int := [27, 3]

def start : Typing where
  reader := .looking
  queue := []
  stopRequested := false

def look (typing : Typing) : Typing :=
  { typing with reader := if typing.stopRequested then .finished else .reading }

/-- The reader receives a code. Codes below zero say that there was nothing to read. -/
def receive (typing : Typing) (code : Int) : Typing × Option Fault :=
  if code < 0 then ({ typing with reader := .looking }, none)
  else if quitCodes.contains code then ({ typing with reader := .holding .quit }, none)
  else if code < 0x110000 then
    ({ typing with reader := .holding (.code code.toNat) }, none)
  else if code < 0x80000000 then ({ typing with reader := .finished }, some .codeNotCharacter)
  else ({ typing with reader := .finished }, some .codeTooWide)

def store (typing : Typing) : Typing :=
  match typing.reader with
  | .holding .quit =>
    if typing.queue.length < capacity then
      { typing with reader := .finished, queue := typing.queue ++ [.quit] }
    else typing
  | .holding (.code value) =>
    if typing.queue.length < capacity then
      { typing with reader := .looking, queue := typing.queue ++ [.code value] }
    else { typing with reader := .looking }
  | _ => typing

def take (typing : Typing) : Option (Typed × Typing) :=
  match typing.queue with
  | [] => none
  | entry :: rest => some (entry, { typing with queue := rest })

def requestStop (typing : Typing) : Typing :=
  { typing with stopRequested := true }

/-- The reader works through codes that are there at once. Those after a wish to quit, after a fault
or after a request to stop are not read. -/
def read (typing : Typing) : List Int → Typing × Option Fault
  | [] => (typing, none)
  | code :: codes =>
    match typing.look.reader with
    | .reading =>
      let (received, fault) := typing.look.receive code
      match fault with
      | some fault => (received, some fault)
      | none =>
        let stored := received.store
        match stored.reader with
        | .looking => stored.read codes
        | _ => (stored, none)
    | _ => (typing.look, none)

/-- The reader works through more codes, unless it has finished or still waits for room. -/
def type (typing : Typing) (codes : List Int) : Typing × Option Fault :=
  match typing.reader with
  | .looking => typing.read codes
  | _ => (typing, none)

/-- The codes of the entries up to a wish to quit, whether there was one, and what is left. A wish
to quit that waits for room is queued as soon as an entry has been taken. At most `fuel` entries are
taken. -/
def drain : Nat → Typing → List Nat × Bool × Typing
  | 0, typing => ([], false, typing)
  | fuel + 1, typing =>
    match typing.take with
    | none => ([], false, typing)
    | some (.quit, rest) => ([], true, rest)
    | some (.code value, rest) =>
      let (codes, quit, left) := drain fuel rest.store
      (value :: codes, quit, left)

/-- The run takes entries until the queue is empty or one of them asks to quit. There is one more to
take than the queue holds if a wish to quit waits behind it. -/
def takeAll (typing : Typing) : List Nat × Bool × Typing :=
  drain (typing.queue.length + 1) typing

end Typing

structure Typist (τ : Type) where
  typing : Typing
  releases : List (String × τ)
deriving Repr, Inhabited

namespace Typist

variable {τ : Type}

def start : Typist τ where
  typing := Typing.start
  releases := []

def hold (releases : List (String × τ)) (symbol : String) (time : τ) : List (String × τ) :=
  if releases.any (·.1 == symbol) then
    releases.map fun entry => if entry.1 = symbol then (symbol, time) else entry
  else releases ++ [(symbol, time)]

def press (expiry : τ) (held : Keypad × List (String × τ)) (code : Nat) :
    Keypad × List (String × τ) :=
  let (keypad, releases) := held
  match Typed.symbol? code with
  | none => held
  | some symbol =>
    match keypad.keymap.key? symbol with
    | none => held
    | some _ => (keypad.set symbol true, hold releases (Text.lower symbol) expiry)

variable [LE τ] [DecidableLE τ]

def releaseDue (typist : Typist τ) (keypad : Keypad) (now : τ) : Keypad × Typist τ :=
  let due := typist.releases.filter fun entry => entry.2 ≤ now
  (due.foldl (fun keypad entry => keypad.set entry.1 false) keypad,
    { typist with releases := typist.releases.filter fun entry => ¬ entry.2 ≤ now })

/-- Presses the keys typed since the last time and releases those whose time has come. A wish to
quit, which is what true says, leaves everything behind it for the next time. Keys are held until
`expiry`. -/
def poll (typist : Typist τ) (keypad : Keypad) (now expiry : τ) : Bool × Keypad × Typist τ :=
  let (codes, quit, typing) := typist.typing.takeAll
  let (keypad, releases) := codes.foldl (press expiry) (keypad, typist.releases)
  if quit then (true, keypad, { typing, releases })
  else
    let (keypad, typist) := releaseDue { typing, releases } keypad now
    (false, keypad, typist)

end Typist

end Chip8
