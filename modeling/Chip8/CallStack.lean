import Chip8.Fault

namespace Chip8

/-- Return addresses, the newest first, and how many there may be. -/
structure CallStack where
  limit : Int
  items : List Int
deriving DecidableEq, Repr, Inhabited

namespace CallStack

def empty (limit : Int) : CallStack where
  limit := limit
  items := []

def depth (stack : CallStack) : Nat :=
  stack.items.length

def push (stack : CallStack) (address : Int) : Except Fault CallStack :=
  if stack.limit ≤ stack.depth then .error .stackOverflow
  else .ok { stack with items := address :: stack.items }

def pop (stack : CallStack) : Except Fault (Int × CallStack) :=
  match stack.items with
  | [] => .error .stackUnderflow
  | address :: rest => .ok (address, { stack with items := rest })

def cleared (stack : CallStack) : CallStack :=
  { stack with items := [] }

def toList (stack : CallStack) : List Int :=
  stack.items.reverse

theorem length_toList (stack : CallStack) : stack.toList.length = stack.depth := by
  simp [toList, depth]

theorem toList_empty (limit : Int) : (empty limit).toList = [] := rfl

theorem toList_cleared (stack : CallStack) : stack.cleared.toList = [] := rfl

theorem toList_push {stack next : CallStack} {address : Int} (h : stack.push address = .ok next) :
    next.toList = stack.toList ++ [address] := by
  unfold push at h
  split at h
  next => cases h
  next =>
    cases h
    simp [toList]

theorem push_eq_error_iff {stack : CallStack} {address : Int} {fault : Fault} :
    stack.push address = .error fault ↔ stack.limit ≤ stack.depth ∧ fault = .stackOverflow := by
  unfold push
  split
  next full => simp [full, eq_comm]
  next free => simp [free]

theorem toList_pop {stack next : CallStack} {address : Int}
    (h : stack.pop = .ok (address, next)) : stack.toList = next.toList ++ [address] := by
  unfold pop at h
  split at h
  next => cases h
  next newest =>
    cases h
    simp [toList, newest]

theorem pop_eq_error_iff {stack : CallStack} {fault : Fault} :
    stack.pop = .error fault ↔ stack.toList = [] ∧ fault = .stackUnderflow := by
  unfold pop
  split
  next empty => simp [toList, empty, eq_comm]
  next filled => simp [toList, filled]

theorem pop_push {stack next : CallStack} {address : Int} (h : stack.push address = .ok next) :
    next.pop = .ok (address, stack) := by
  unfold push at h
  split at h
  next => cases h
  next =>
    cases h
    rfl

end CallStack

end Chip8
