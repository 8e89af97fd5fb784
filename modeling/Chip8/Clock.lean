import Chip8.Fault

namespace Chip8.Seconds

/-- The integer nearest to a quotient, the even one of two that are equally near. -/
def roundQuotient (num den : Nat) : Nat :=
  let low := num / den
  let twice := 2 * (num % den)
  if twice < den ∨ (twice = den ∧ low % 2 = 0) then low else low + 1

/-- The places by which a quotient is moved to have 53 bits in front of its point. -/
def places (num den : Nat) : Int :=
  let guess : Int := 53 + den.log2 - num.log2
  if num <<< guess.toNat < den <<< (53 + (-guess).toNat) then guess else guess - 1

/-- The floating point number nearest to a quotient that is large enough for 53 significant bits. -/
def ofQuotient (num den : Nat) : Float :=
  let shift := places num den
  (Float.ofNat (roundQuotient (num <<< shift.toNat) (den <<< (-shift).toNat))).scaleB (-shift)

def ofParts (count : Int) (parts : Nat) : Except Fault Float :=
  let size := if count = 0 then 0.0 else ofQuotient count.natAbs parts
  if size.isInf then .error .timeTooLarge
  else .ok (if count < 0 then -size else size)

end Chip8.Seconds

namespace Chip8

structure Clock where
  time : Float
  readings : Nat
  limit : Nat
  /-- How long the readings take, in turn, again from the first after the last. -/
  costs : Array Int

namespace Clock

def parts : Nat := 1024

def standardLimit : Nat := 400

def startingAt (time : Float) (costs : Array Int) (limit : Nat) : Clock where
  time := time
  readings := 0
  limit := limit
  costs := costs

def cost (clock : Clock) : Int :=
  clock.costs.getD (clock.readings % clock.costs.size) 0

/-- The time, and then some time passes. A reading that fails is counted too, but takes no time. -/
def read : EStateM Fault Clock Float := fun clock =>
  let next := { clock with readings := clock.readings + 1 }
  if clock.limit ≤ clock.readings then .error .interrupted next
  else match Seconds.ofParts clock.cost parts with
    | .error fault => .error fault next
    | .ok cost => .ok clock.time { next with time := clock.time + cost }

def slept (clock : Clock) (rest : Float) : Clock :=
  { clock with time := clock.time + rest }

end Clock

end Chip8
