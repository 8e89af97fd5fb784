import Chip8.Memory
import Mathlib.Data.List.GetD

namespace Chip8.Memory

variable {memory : Memory} {address : Int} {bytes : List UInt8}

def laid (memory : Memory) (address : Int) (bytes : List UInt8) : Memory :=
  Vector.ofFn fun k => bytes.getD ((k.val - address) % 4096).toNat (memory.get k)

def firstReserved (address : Int) (count : Nat) : Option Nat :=
  (List.range count).find? fun k => (address + k) % 4096 < 0x200

/-- The place so many cells from an address on is the first that belongs to the interpreter. -/
structure FirstReserved (address : Int) (count k : Nat) : Prop where
  inside : k < count
  reserved : (address + k) % 4096 < 0x200
  before : ∀ j < k, 0x200 ≤ (address + j) % 4096

theorem firstReserved_eq_some_iff {count k : Nat} :
    firstReserved address count = some k ↔ FirstReserved address count k := by
  unfold firstReserved
  rw [List.find?_range_eq_some]
  simp only [decide_eq_true_eq, List.mem_range, Bool.not_eq_true', decide_eq_false_iff_not,
    Int.not_lt]
  constructor
  · rintro ⟨reserved, inside, before⟩
    exact ⟨inside, reserved, before⟩
  · rintro ⟨inside, reserved, before⟩
    exact ⟨reserved, inside, before⟩

theorem laid_nil : laid memory address [] = memory := by
  apply Vector.ext
  intro k hk
  simp [laid, Bank.get_eq]

theorem laid_cons (value : UInt8) (fits : bytes.length < 4096) :
    laid (memory.set (place address) value) (address + 1) bytes =
      laid memory address (value :: bytes) := by
  apply Vector.ext
  intro k hk
  have located := place_val address
  simp only [laid, Vector.getElem_ofFn, Bank.get_eq, Vector.getElem_set]
  by_cases here : (place address).val = k
  · -- Seen from the next address this cell is the last of all, beyond the other bytes.
    have first : (((k : Nat) : Int) - address) % 4096 = 0 := by omega
    have last : (((k : Nat) : Int) - (address + 1)) % 4096 = 4095 := by omega
    have beyond : bytes.length ≤ (4095 : Int).toNat := by omega
    rw [first, last, if_pos here, List.getD_eq_default _ _ beyond]
    rfl
  · obtain ⟨d, offset⟩ : ∃ d : Nat, (((k : Nat) : Int) - address) % 4096 = d + 1 :=
      ⟨((((k : Nat) : Int) - address) % 4096 - 1).toNat, by omega⟩
    have shifted : (((k : Nat) : Int) - (address + 1)) % 4096 = d := by omega
    rw [offset, shifted, if_neg here]
    rfl

theorem firstReserved_zero : firstReserved address 0 = none := rfl

theorem firstReserved_succ (count : Nat) :
    firstReserved address (count + 1) =
      if address % 4096 < 0x200 then some 0
      else (firstReserved (address + 1) count).map (· + 1) := by
  unfold firstReserved
  rw [List.range_succ_eq_map]
  by_cases low : address % 4096 < 0x200
  · rw [if_pos low, List.find?_cons_of_pos (by simpa using low)]
  · rw [if_neg low, List.find?_cons_of_neg (by simpa using low), List.find?_map]
    refine congrArg (Option.map Nat.succ) (congrArg (List.find? · _) (funext fun k => ?_))
    simp only [Function.comp, Nat.succ_eq_add_one, Int.natCast_add, Int.add_assoc]
    rw [Int.add_comm 1 (k : Int)]
    rfl

theorem get_laid (fits : bytes.length ≤ 4096) (k : Address) :
    (laid memory address bytes).get k =
      ((List.range bytes.length).find? fun (j : Nat) => (address + j) % 4096 == (k.val : Int)).elim
        (memory.get k) fun j => bytes.getD j 0 := by
  simp only [Bank.get_eq, laid, Vector.getElem_ofFn]
  cases found : (List.range bytes.length).find? fun (j : Nat) =>
      (address + j) % 4096 == (k.val : Int) with
  | none =>
    rw [List.find?_eq_none] at found
    have beyond : bytes.length ≤ (((k.val : Int) - address) % 4096).toNat := by
      apply Nat.le_of_not_lt
      intro inside
      refine found _ (List.mem_range.2 inside) ?_
      rw [beq_iff_eq]
      omega
    rw [List.getD_eq_default _ _ beyond]
    rfl
  | some j =>
    have inside := List.mem_range.1 (List.mem_of_find?_eq_some found)
    have here := List.find?_some found
    rw [beq_iff_eq] at here
    have offset : (((k.val : Int) - address) % 4096).toNat = j := by omega
    rw [offset, Option.elim_some]
    simp [inside]

/-- A store of several bytes stops at the first place that belongs to the interpreter, and what was
stored before stays. -/
theorem storeAll_eq (memory : Memory) (address : Int) (bytes : List UInt8)
    (fits : bytes.length ≤ 4096) :
    memory.storeAll address bytes =
      match firstReserved address bytes.length with
      | none => (laid memory address bytes, none)
      | some k =>
        (laid memory address (bytes.take k),
          some (.reservedWrite ((address + k) % 4096).toNat)) := by
  induction bytes generalizing memory address with
  | nil => simp [storeAll, firstReserved_zero, laid_nil]
  | cons value bytes ih =>
    rw [List.length_cons] at fits
    have located := place_val address
    rw [List.length_cons, firstReserved_succ]
    unfold storeAll store
    by_cases low : address % 4096 < 0x200
    · have low' : (place address).val < programStart := by unfold programStart; omega
      have name : (address % 4096).toNat = (place address).val := by omega
      simp [low, low', laid_nil, name]
    · have high : ¬ (place address).val < programStart := by unfold programStart; omega
      simp only [low, high, if_false]
      rw [ih _ _ (by omega)]
      cases firstReserved (address + 1) bytes.length with
      | none => simp only [Option.map_none, laid_cons value (show bytes.length < 4096 by omega)]
      | some k =>
        have short : (bytes.take k).length < 4096 := by rw [List.length_take]; omega
        have next : address + 1 + (k : Int) = address + ((k + 1 : Nat) : Int) := by omega
        simp only [Option.map_some, List.take_succ_cons, laid_cons value short, next]

end Chip8.Memory
