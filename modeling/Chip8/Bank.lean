import Chip8.Fault

namespace Chip8

def maxExtent : Int := 9223372036854775807

def fits (n : Int) : Bool :=
  -9223372036854775808 ≤ n && n ≤ maxExtent

/-- Whether there is memory for so many new bytes at once. -/
abbrev Room := Nat → Bool

def hasRoom (room : Room) (n : Int) : Bool :=
  n ≤ 0 || room n.toNat

def lowByte (n : Int) : UInt8 :=
  UInt8.ofNat (n % 256).toNat

theorem toNat_lowByte (n : Int) : ((lowByte n).toNat : Int) = n % 256 := by
  simp only [lowByte, UInt8.toNat_ofNat']
  omega

abbrev Bank (size : Nat) := Vector UInt8 size

namespace Bank

variable {size : Nat}

/-- The cell at a location; `-1` is the last one. -/
def cell (size : Nat) (location : Int) : Except Fault (Fin size) :=
  if !fits location then .error .locationTooWide
  else if h : 0 ≤ location ∧ location < size then .ok ⟨location.toNat, by omega⟩
  else if h : -size ≤ location ∧ location < 0 then .ok ⟨(location + size).toNat, by omega⟩
  else .error .cellOutOfRange

def byteOf (value : Int) : Except Fault UInt8 :=
  if 0 ≤ value ∧ value ≤ 255 then .ok (UInt8.ofNat value.toNat) else .error .valueNotByte

def read (bank : Bank size) (location : Int) : Except Fault UInt8 := do
  let k ← cell size location
  return bank[k]

def put (bank : Bank size) (location value : Int) : Except Fault (Bank size) := do
  let k ← cell size location
  let byte ← byteOf value
  return bank.set k byte

def checkOverflow (size : Nat) (location : Int) : Except Fault Unit :=
  if location > (size : Int) - 1 then .error .bankOverflow else .ok ()

def write (bank : Bank size) (location value : Int) : Except Fault (Bank size) := do
  checkOverflow size location
  bank.put location value

/-- The cell boundary that an end of a block stands for: counted from the end if it is negative, and
clipped to the bank. -/
def boundary (size : Nat) (location : Int) : Nat :=
  if location < 0 then (location + size).toNat else min location.toNat size

/-- The bytes of a block; only the part of it that lies in the bank is read. -/
def readBlock (bank : Bank size) (location : Int) (length : Int := 1) : Array UInt8 :=
  (bank.extract (boundary size location) (boundary size (location + length))).toArray

def overlay (bank : Bank size) (start : Nat) (block : Array UInt8) : Bank size :=
  bank.mapIdx fun k old =>
    if start ≤ k ∧ k < start + block.size then block.getD (k - start) 0 else old

/-- Puts a block over the cells between two ends, which have to be as many as its bytes. -/
def putBlock (bank : Bank size) (location : Int) (block : Array UInt8) :
    Except Fault (Bank size) :=
  let start := boundary size location
  let stop := boundary size (location + block.size)
  if stop - start = block.size then .ok (bank.overlay start block)
  else .error .blockLengthMismatch

def writeBlock (bank : Bank size) (location : Int) (block : Array UInt8) :
    Except Fault (Bank size) := do
  checkOverflow size (location + block.size - 1)
  bank.putBlock location block

def count (n : Int) : Except Fault Nat :=
  if !fits n then .error .sizeTooWide
  else if n < 0 then .error .sizeNegative
  else .ok n.toNat

def roomFor (room : Room) (n : Int) : Except Fault Nat := do
  let cells ← count n
  if hasRoom room n then return cells else throw .memoryExhausted

/-- The most bytes in a block that is made anew; it has a header of 33 bytes. -/
def maxBlock : Int := maxExtent - 33

def blockLength (room : Room) (n : Int) : Except Fault Nat :=
  if fits n && maxBlock < n then .error .blockTooLong else roomFor room n

/-- Writes zeros. The block is compared with its cells before it is made, so a block that cannot fit
costs nothing. -/
def zeroBlock (bank : Bank size) (room : Room) (offset length : Int) :
    Except Fault (Bank size) := do
  checkOverflow size (offset + length - 1)
  let zeros ← blockLength room length
  if boundary size (offset + length) - boundary size offset = zeros then
    bank.putBlock offset (Array.replicate zeros 0)
  else .error .blockLengthMismatch

def clear (bank : Bank size) (room : Room) : Except Fault (Bank size) :=
  bank.zeroBlock room 0 size

def zeros (size : Nat) : Bank size :=
  Vector.replicate size 0

def resize (room : Room) (n : Int) : Except Fault ((size : Nat) × Bank size) := do
  let size ← roomFor room n
  return ⟨size, zeros size⟩

theorem cell_eq_ok {location : Int} (h : 0 ≤ location ∧ location < size) (narrow : fits location) :
    cell size location = .ok ⟨location.toNat, by omega⟩ := by
  simp [cell, narrow, h]

theorem byteOf_eq_ok {value : Int} (h : 0 ≤ value ∧ value ≤ 255) :
    byteOf value = .ok (UInt8.ofNat value.toNat) := by
  simp [byteOf, h]

theorem put_eq_ok (bank : Bank size) {location value : Int} (h : 0 ≤ location ∧ location < size)
    (narrow : fits location) (byte : 0 ≤ value ∧ value ≤ 255) :
    bank.put location value =
      .ok (bank.set location.toNat (UInt8.ofNat value.toNat) (by omega)) := by
  simp [put, cell_eq_ok h narrow, byteOf_eq_ok byte, bind, Except.bind, pure, Except.pure]

theorem read_eq_ok (bank : Bank size) {location : Int} (h : 0 ≤ location ∧ location < size)
    (narrow : fits location) :
    bank.read location = .ok bank[(⟨location.toNat, by omega⟩ : Fin size)] := by
  simp [read, cell_eq_ok h narrow, bind, Except.bind, pure, Except.pure]

theorem boundary_le (location : Int) : boundary size location ≤ size := by
  unfold boundary
  split <;> omega

theorem boundary_eq {location : Nat} (h : location ≤ size) : boundary size location = location := by
  unfold boundary
  split <;> omega

theorem getElem_overlay (bank : Bank size) (start : Nat) (block : Array UInt8) (k : Nat)
    (hk : k < size) :
    (bank.overlay start block)[k] =
      if start ≤ k ∧ k < start + block.size then block.getD (k - start) 0 else bank[k] := by
  simp [overlay]

theorem get_eq (bank : Bank size) (k : Fin size) : bank.get k = bank[k.val] := rfl

theorem getElem_zeros (k : Nat) (hk : k < size) : (zeros size)[k] = 0 := by
  simp [zeros]

theorem checkOverflow_eq_ok_iff {location : Int} :
    checkOverflow size location = .ok () ↔ location < size := by
  unfold checkOverflow
  split
  next high =>
    simp only [reduceCtorEq, false_iff]
    omega
  next low =>
    simp only [true_iff]
    omega

theorem writeBlock_eq_ok (bank : Bank size) {start : Nat} {block : Array UInt8}
    (h : start + block.size ≤ size) :
    bank.writeBlock start block = .ok (bank.overlay start block) := by
  have below : checkOverflow size (start + block.size - 1) = .ok () :=
    checkOverflow_eq_ok_iff.2 (by omega)
  have bottom : boundary size start = start := boundary_eq (by omega)
  have top : boundary size (start + block.size) = start + block.size := by
    rw [← Int.natCast_add]
    exact boundary_eq h
  simp only [writeBlock, below, putBlock, bottom, top]
  simp [bind, Except.bind]

theorem fits_of_le_maxBlock {n : Nat} (short : n ≤ maxBlock) : fits n = true := by
  unfold maxBlock at short
  unfold fits
  simp only [Bool.and_eq_true, decide_eq_true_eq]
  omega

theorem blockLength_eq_ok {room : Room} {n : Nat} (free : hasRoom room n) (short : n ≤ maxBlock) :
    blockLength room n = .ok n := by
  have narrow := fits_of_le_maxBlock short
  have counted : count n = .ok n := by
    simp [count, narrow]
  have small : ¬ maxBlock < (n : Int) := by omega
  simp [blockLength, roomFor, counted, free, small, bind, Except.bind, pure, Except.pure]

theorem clear_eq_ok (bank : Bank size) {room : Room} (free : hasRoom room size)
    (short : size ≤ maxBlock) : bank.clear room = .ok (zeros size) := by
  have fitting : checkOverflow size (0 + (size : Int) - 1) = .ok () :=
    checkOverflow_eq_ok_iff.2 (by omega)
  have counted : blockLength room size = .ok size := blockLength_eq_ok free short
  have bottom : boundary size 0 = 0 := @boundary_eq size 0 (by omega)
  have top : boundary size (0 + size) = size := by
    rw [Int.zero_add]
    exact boundary_eq (Nat.le_refl size)
  unfold clear zeroBlock
  rw [fitting, counted]
  simp only [bind, Except.bind, bottom, top, putBlock]
  have same : boundary size (0 + (Array.replicate size (0 : UInt8)).size) - 0 =
      (Array.replicate size (0 : UInt8)).size := by
    rw [Array.size_replicate, top, Nat.sub_zero]
  simp only [Nat.sub_zero, same, ↓reduceIte]
  refine congrArg Except.ok (Vector.ext fun k hk => ?_)
  simp only [getElem_overlay, getElem_zeros]
  simp [hk]

end Bank

end Chip8
