import Chip8.Bank

namespace Chip8

structure Timers where
  delay : UInt8
  sound : UInt8
deriving DecidableEq, Repr, Inhabited

namespace Timers

def stopped : Timers where
  delay := 0
  sound := 0

def setDelay (timers : Timers) (value : Int) : Timers :=
  { timers with delay := lowByte value }

def setSound (timers : Timers) (value : Int) : Timers :=
  { timers with sound := lowByte value }

def countDown (n : UInt8) : UInt8 :=
  if n = 0 then 0 else n - 1

def tick (timers : Timers) : Timers where
  delay := countDown timers.delay
  sound := countDown timers.sound

def toneDue (timers : Timers) : Bool :=
  timers.sound = 1

theorem toNat_countDown (n : UInt8) : (countDown n).toNat = n.toNat - 1 := by
  unfold countDown
  split
  next zero => simp [zero]
  next positive =>
    have : n.toNat ≠ 0 := fun h => positive (UInt8.toNat_inj.mp h)
    have := n.toNat_lt
    rw [UInt8.toNat_sub_of_le _ _ (UInt8.le_iff_toNat_le.mpr (by simp; omega))]
    rfl

end Timers

end Chip8
