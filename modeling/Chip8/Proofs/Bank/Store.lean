import Chip8.Bank
import Mathlib.Tactic.Common

namespace Chip8

/-- Why new bytes are refused, if they are: those of a new bank, and those of a block. -/
structure Supply where
  bank : Nat → Option Fault
  block : Nat → Option Fault
  proper : ∀ n, block n ≠ some .bankOverflow

namespace Supply

def ample : Supply where
  bank _ := none
  block _ := none
  proper _ := by simp

/-- The supply of a host that has room for some bytes only. -/
def limited (room : Room) : Supply where
  bank n := if hasRoom room n then none else some .memoryExhausted
  block n :=
    if Bank.maxBlock < n then some .blockTooLong
    else if hasRoom room n then none else some .memoryExhausted
  proper n := by split_ifs <;> simp

end Supply

def granted (refusal : Nat → Option Fault) (n : Int) : Except Fault Nat :=
  match Bank.count n with
  | .error fault => .error fault
  | .ok bytes =>
    match refusal bytes with
    | none => .ok bytes
    | some fault => .error fault

namespace Bank

inductive Call where
  | resize (n : Int)
  | write (location value : Int)
  | writeBlock (location : Int) (block : Array UInt8)
  | zeroBlock (offset length : Int)
  | clear
deriving DecidableEq

abbrev Sized := (size : Nat) × Bank size

def Call.run (room : Room) : Call → Sized → Except Fault Sized
  | resize n, _ => Bank.resize room n
  | write location value, ⟨size, bank⟩ => (bank.write location value).map (Sigma.mk size)
  | writeBlock location block, ⟨size, bank⟩ => (bank.writeBlock location block).map (Sigma.mk size)
  | zeroBlock offset length, ⟨size, bank⟩ => (bank.zeroBlock room offset length).map (Sigma.mk size)
  | clear, ⟨size, bank⟩ => (bank.clear room).map (Sigma.mk size)

variable {size : Nat}

def zeroFrom (supply : Supply) (bank : Bank size) (offset length : Int) :
    Except Fault (Bank size) := do
  checkOverflow size (offset + length - 1)
  let zeros ← granted supply.block length
  bank.putBlock offset (Array.replicate zeros 0)

def Call.runWith (supply : Supply) : Call → Sized → Except Fault Sized
  | resize n, _ => (granted supply.bank n).map fun size => ⟨size, zeros size⟩
  | write location value, ⟨size, bank⟩ => (bank.write location value).map (Sigma.mk size)
  | writeBlock location block, ⟨size, bank⟩ => (bank.writeBlock location block).map (Sigma.mk size)
  | zeroBlock offset length, ⟨size, bank⟩ =>
    (zeroFrom supply bank offset length).map (Sigma.mk size)
  | clear, ⟨size, bank⟩ => (zeroFrom supply bank 0 size).map (Sigma.mk size)

theorem count_eq_ok_iff {n : Int} {bytes : Nat} :
    count n = .ok bytes ↔ fits n = true ∧ n = bytes := by
  unfold count
  cases narrow : fits n with
  | false => simp
  | true =>
    simp only [Bool.not_true, Bool.false_eq_true, ↓reduceIte, true_and]
    split_ifs with negative
    · simp only [false_iff]
      omega
    · rw [Except.ok.injEq]
      omega

theorem granted_of_count_eq_error {refusal : Nat → Option Fault} {n : Int} {fault : Fault}
    (uncounted : count n = .error fault) : granted refusal n = .error fault := by
  unfold granted
  rw [uncounted]

theorem granted_of_fits {refusal : Nat → Option Fault} {bytes : Nat} (narrow : fits bytes = true) :
    granted refusal bytes =
      match refusal bytes with
      | none => .ok bytes
      | some fault => .error fault := by
  unfold granted
  rw [count_eq_ok_iff.2 ⟨narrow, rfl⟩]

theorem granted_eq_ok {refusal : Nat → Option Fault} {n : Int} {bytes : Nat}
    (h : granted refusal n = .ok bytes) : n = bytes := by
  cases counted : count n with
  | error fault =>
    rw [granted_of_count_eq_error counted] at h
    cases h
  | ok number =>
    obtain ⟨narrow, rfl⟩ := count_eq_ok_iff.1 counted
    rw [granted_of_fits narrow] at h
    cases refused : refusal number with
    | none =>
      rw [refused] at h
      cases h
      rfl
    | some fault =>
      rw [refused] at h
      cases h

variable {room : Room}

theorem granted_limited_bank (n : Int) :
    granted (Supply.limited room).bank n = roomFor room n := by
  unfold roomFor
  cases counted : count n with
  | error fault =>
    rw [granted_of_count_eq_error counted]
    rfl
  | ok bytes =>
    obtain ⟨narrow, rfl⟩ := count_eq_ok_iff.1 counted
    rw [granted_of_fits narrow]
    by_cases free : hasRoom room bytes = true <;>
      simp [Supply.limited, free, bind, Except.bind, pure, Except.pure, throw, throwThe,
        MonadExceptOf.throw]

theorem not_maxBlock_lt_of_count_eq_error {n : Int} {fault : Fault}
    (uncounted : count n = .error fault) : (fits n && decide (maxBlock < n)) = false := by
  cases narrow : fits n with
  | false => rfl
  | true =>
    have negative : n < 0 := by
      by_contra positive
      simp [count, narrow, positive] at uncounted
    have short : ¬ maxBlock < n := by
      unfold maxBlock maxExtent
      omega
    simp [short]

theorem granted_limited_block (n : Int) :
    granted (Supply.limited room).block n = blockLength room n := by
  unfold blockLength
  rw [← granted_limited_bank]
  cases counted : count n with
  | error fault =>
    rw [not_maxBlock_lt_of_count_eq_error counted, granted_of_count_eq_error counted,
      granted_of_count_eq_error counted]
    rfl
  | ok bytes =>
    obtain ⟨narrow, rfl⟩ := count_eq_ok_iff.1 counted
    rw [granted_of_fits narrow, granted_of_fits narrow, narrow]
    by_cases long : maxBlock < bytes <;> simp [Supply.limited, long]

theorem zeroFrom_limited (bank : Bank size) (offset length : Int) :
    zeroFrom (.limited room) bank offset length = bank.zeroBlock room offset length := by
  unfold zeroFrom zeroBlock
  rw [granted_limited_block]
  cases checkOverflow size (offset + length - 1) with
  | error fault => rfl
  | ok =>
    cases made : blockLength room length with
    | error fault => rfl
    | ok zeros =>
      have asked : length = zeros := granted_eq_ok ((granted_limited_block length).trans made)
      change bank.putBlock offset (Array.replicate zeros 0) =
        if boundary size (offset + length) - boundary size offset = zeros then
          bank.putBlock offset (Array.replicate zeros 0)
        else .error .blockLengthMismatch
      split_ifs with fitting
      · rfl
      · unfold putBlock
        rw [Array.size_replicate, ← asked, if_neg fitting]

theorem Call.runWith_limited (call : Call) (bank : Sized) :
    call.runWith (.limited room) bank = call.run room bank := by
  obtain ⟨size, bank⟩ := bank
  cases call with
  | resize n =>
    change (granted (Supply.limited room).bank n).map _ = Bank.resize room n
    unfold Bank.resize
    rw [granted_limited_bank]
    rfl
  | zeroBlock offset length => simp only [runWith, run, zeroFrom_limited]
  | clear => simp only [runWith, run, zeroFrom_limited, Bank.clear]
  | _ => rfl

end Bank

structure Store where
  cells : Array UInt8
  size : Int
  top : Int
deriving DecidableEq

namespace Store

open Bank

def ofBank (bank : Sized) : Store where
  cells := bank.2.toArray
  size := bank.1
  top := bank.1 - 1

def attempt {α : Type} (result : Except Fault α) : EStateM Fault Store α := fun s =>
  match result with
  | .ok a => .ok a s
  | .error fault => .error fault s

def resize (supply : Supply) (n : Int) : EStateM Fault Store Unit := do
  let bytes ← attempt (granted supply.bank n)
  modify fun s => { s with cells := Array.replicate bytes 0 }
  modify fun s => { s with top := n - 1 }
  modify fun s => { s with size := n }

def checkOverflow (location : Int) : EStateM Fault Store Unit := do
  let s ← get
  if location > s.top then throw .bankOverflow

def put (location value : Int) : EStateM Fault Store Unit := do
  let s ← get
  let k ← attempt (cell s.cells.size location)
  let byte ← attempt (byteOf value)
  set { s with cells := s.cells.set k byte }

def write (location value : Int) : EStateM Fault Store Unit := do
  checkOverflow location
  put location value

def splice (cells : Array UInt8) (start : Nat) (block : Array UInt8) : Array UInt8 :=
  cells.extract 0 start ++ block ++ cells.extract (start + block.size) cells.size

def setBlock (low high : Int) (block : Array UInt8) : EStateM Fault Store Unit := do
  let s ← get
  let start := boundary s.cells.size low
  let stop := boundary s.cells.size high
  if stop - start = block.size then
    set { s with cells := splice s.cells start block }
  else throw .blockLengthMismatch

def writeBlock (location : Int) (block : Array UInt8) : EStateM Fault Store Unit := do
  let high := location + block.size
  checkOverflow (high - 1)
  setBlock location high block

def zeroBlock (supply : Supply) (offset length : Int) : EStateM Fault Store Unit := do
  let high := offset + length
  checkOverflow (high - 1)
  let bytes ← attempt (granted supply.block length)
  setBlock offset high (Array.replicate bytes 0)

def clear (supply : Supply) : EStateM Fault Store Unit := do
  let s ← get
  zeroBlock supply 0 s.size

def perform (supply : Supply) : Call → EStateM Fault Store Unit
  | .resize n => resize supply n
  | .write location value => write location value
  | .writeBlock location block => writeBlock location block
  | .zeroBlock offset length => zeroBlock supply offset length
  | .clear => clear supply

def outcome (s : Store) : Except Fault Sized → EStateM.Result Fault Store Unit
  | .ok bank => .ok () (ofBank bank)
  | .error fault => .error fault s

variable {size : Nat}

theorem attempt_bind {α : Type} (result : Except Fault α) (rest : α → EStateM Fault Store Unit)
    (s : Store) :
    (attempt result >>= rest) s =
      match result with
      | .ok a => rest a s
      | .error fault => .error fault s := by
  cases result <;> rfl

theorem checkOverflow_ofBank (bank : Bank size) (location : Int) :
    checkOverflow location (ofBank ⟨size, bank⟩) =
      attempt (Bank.checkOverflow size location) (ofBank ⟨size, bank⟩) := by
  change (if location > (size : Int) - 1 then throw Fault.bankOverflow else pure () :
    EStateM Fault Store Unit) _ = _
  unfold Bank.checkOverflow
  split_ifs <;> rfl

theorem checkOverflow_bind (bank : Bank size) (location : Int) (rest : EStateM Fault Store Unit) :
    (checkOverflow location >>= fun _ => rest) (ofBank ⟨size, bank⟩) =
      match Bank.checkOverflow size location with
      | .ok _ => rest (ofBank ⟨size, bank⟩)
      | .error fault => .error fault (ofBank ⟨size, bank⟩) := by
  have checked := checkOverflow_ofBank bank location
  change EStateM.bind _ _ _ = _
  unfold EStateM.bind
  rw [checked]
  cases Bank.checkOverflow size location <;> rfl

theorem put_ofBank (bank : Bank size) (location value : Int) :
    put location value (ofBank ⟨size, bank⟩) =
      outcome (ofBank ⟨size, bank⟩) ((bank.put location value).map (Sigma.mk size)) := by
  obtain ⟨cells, rfl⟩ := bank
  change (attempt (cell cells.size location) >>= fun _ =>
    attempt (byteOf value) >>= fun _ => _) _ = _
  rw [attempt_bind]
  unfold Bank.put
  cases cell cells.size location with
  | error fault => rfl
  | ok k =>
    dsimp only
    rw [attempt_bind]
    cases byteOf value <;> rfl

theorem splice_toArray (bank : Bank size) {start : Nat} {block : Array UInt8}
    (inside : start + block.size ≤ size) :
    splice bank.toArray start block = (bank.overlay start block).toArray := by
  have below : (bank.toArray.extract 0 start).size = start := by
    simp
    omega
  unfold splice
  refine Array.ext ?_ fun k left right => ?_
  · simp
    omega
  · have bound : k < size := by simpa using right
    rw [Vector.getElem_toArray, getElem_overlay bank start block k bound]
    simp only [Array.getElem_append, Array.size_append, below, Array.getElem_extract,
      Vector.getElem_toArray]
    rcases Nat.lt_or_ge k start with front | front
    · have uncovered : ¬ (start ≤ k ∧ k < start + block.size) := by omega
      have early : k < start + block.size := by omega
      rw [if_neg uncovered]
      simp only [front, early, ↓reduceDIte, Nat.zero_add]
    · have later : ¬ k < start := by omega
      rcases Nat.lt_or_ge k (start + block.size) with covered | behind
      · have offset : k - start < block.size := by omega
        simp [later, front, covered, offset, Array.getD]
      · have uncovered : ¬ k < start + block.size := by omega
        have back : start + block.size + (k - (start + block.size)) = k := by omega
        simp only [uncovered, and_false, ↓reduceDIte, ↓reduceIte, back]

theorem setBlock_ofBank (bank : Bank size) (location : Int) (block : Array UInt8) :
    setBlock location (location + block.size) block (ofBank ⟨size, bank⟩) =
      outcome (ofBank ⟨size, bank⟩) ((bank.putBlock location block).map (Sigma.mk size)) := by
  have run : setBlock location (location + block.size) block (ofBank ⟨size, bank⟩) =
      (if boundary bank.toArray.size (location + block.size) -
          boundary bank.toArray.size location = block.size then
        set { ofBank ⟨size, bank⟩ with
          cells := splice bank.toArray (boundary bank.toArray.size location) block }
      else throw .blockLengthMismatch : EStateM Fault Store Unit) (ofBank ⟨size, bank⟩) := rfl
  rw [run, bank.size_toArray]
  unfold putBlock
  dsimp only
  split_ifs with fitting
  · have low : boundary size location ≤ size := boundary_le location
    have high : boundary size (location + block.size) ≤ size := boundary_le _
    rw [splice_toArray bank (by omega)]
    rfl
  · rfl

theorem zeroBlock_ofBank (supply : Supply) (bank : Bank size) (offset length : Int) :
    zeroBlock supply offset length (ofBank ⟨size, bank⟩) =
      outcome (ofBank ⟨size, bank⟩)
        ((zeroFrom supply bank offset length).map (Sigma.mk size)) := by
  change (checkOverflow _ >>= fun _ => attempt _ >>= fun _ => _) _ = _
  rw [checkOverflow_bind]
  unfold zeroFrom
  cases Bank.checkOverflow size (offset + length - 1) with
  | error fault => rfl
  | ok =>
    dsimp only
    rw [attempt_bind]
    cases made : granted supply.block length with
    | error fault => rfl
    | ok zeros =>
      have asked : length = (Array.replicate zeros (0 : UInt8)).size := by
        rw [Array.size_replicate]
        exact granted_eq_ok made
      dsimp only
      rw [asked]
      exact setBlock_ofBank bank offset (Array.replicate zeros 0)

/-- On a stored bank every operation does as on the bank, and one that fails leaves the store as it
is. -/
theorem perform_ofBank (supply : Supply) (call : Call) (bank : Sized) :
    perform supply call (ofBank bank) = outcome (ofBank bank) (call.runWith supply bank) := by
  obtain ⟨size, bank⟩ := bank
  cases call with
  | resize n =>
    change (attempt _ >>= _) _ = _
    rw [attempt_bind]
    change _ = outcome _ ((granted supply.bank n).map _)
    cases made : granted supply.bank n with
    | error fault => rfl
    | ok bytes =>
      have asked := granted_eq_ok made
      subst asked
      simp only [Except.map, outcome, ofBank, zeros, Vector.toArray_replicate]
      rfl
  | write location value =>
    change (checkOverflow _ >>= fun _ => put _ _) _ = outcome _ ((bank.write location value).map _)
    rw [checkOverflow_bind, put_ofBank]
    unfold Bank.write
    cases Bank.checkOverflow size location <;> rfl
  | writeBlock location block =>
    change (checkOverflow _ >>= fun _ => setBlock _ _ _) _ = _
    rw [checkOverflow_bind, setBlock_ofBank]
    change _ = outcome _ ((bank.writeBlock location block).map _)
    unfold Bank.writeBlock
    cases Bank.checkOverflow size (location + block.size - 1) <;> rfl
  | zeroBlock offset length => exact zeroBlock_ofBank supply bank offset length
  | clear => exact zeroBlock_ofBank supply bank 0 size

end Store

end Chip8
