import Chip8.Bank
import Chip8.Timers

namespace Chip8

theorem toNat_lsb (b : UInt8) : (if b.toNat.testBit 0 then 1 else 0) = b.toNat % 2 := by
  rw [Nat.testBit_zero]
  rcases Nat.mod_two_eq_zero_or_one b.toNat with even | odd
  · simp [even]
  · simp [odd]

theorem toNat_msb (b : UInt8) : (if b.toNat.testBit 7 then 1 else 0) = b.toNat / 128 := by
  have bound := b.toNat_lt
  rw [Nat.testBit_eq_decide_div_mod_eq]
  by_cases high : b.toNat / 128 = 1
  · simp [high]
  · have low : b.toNat / 128 = 0 := by omega
    simp [low]

theorem toNat_halved (b : UInt8) : (b >>> 1).toNat = b.toNat / 2 := by
  rw [UInt8.toNat_shiftRight, Nat.shiftRight_eq_div_pow]
  rfl

theorem toNat_doubled (b : UInt8) : (b <<< 1).toNat = b.toNat * 2 % 256 := by
  rw [UInt8.toNat_shiftLeft, Nat.shiftLeft_eq]
  rfl

theorem toNat_difference (a b : UInt8) : (a - b).toNat = (a.toNat + 256 - b.toNat) % 256 := by
  have ha := a.toNat_lt
  have hb := b.toNat_lt
  rw [UInt8.toNat_sub]
  omega

theorem emod_difference (a b : UInt8) : ((a.toNat : Int) - b.toNat) % 256 = (a - b).toNat := by
  have ha := a.toNat_lt
  have hb := b.toNat_lt
  rw [toNat_difference]
  omega

theorem toNat_lowByte_toNat (b : UInt8) : (lowByte b.toNat).toNat = b.toNat := by
  have bound := b.toNat_lt
  have low := toNat_lowByte b.toNat
  omega

theorem toNat_bit (flag : Bool) :
    (if flag then (1 : UInt8) else 0).toNat = if flag then 1 else 0 := by
  cases flag <;> rfl

theorem beq_toNat (a b : UInt8) : (a.toNat == b.toNat) = (a == b) := by
  rw [Bool.eq_iff_iff, beq_iff_eq, beq_iff_eq, UInt8.toNat_inj]

theorem toNat_toggled {pixel : UInt8} (binary : pixel = 0 ∨ pixel = 1) :
    (pixel ^^^ 1).toNat = 1 - pixel.toNat := by
  rcases binary with rfl | rfl <;> rfl

theorem bank_eq {size : Nat} {a b : Bank size}
    (same : ∀ k : Fin size, (a.get k).toNat = (b.get k).toNat) : a = b := by
  apply Vector.ext
  intro k hk
  exact UInt8.toNat_inj.1 (same ⟨k, hk⟩)

theorem eq_of_toNat {a b : Int} (ha : 0 ≤ a) (hb : 0 ≤ b) (same : a.toNat = b.toNat) : a = b := by
  omega

theorem eq_of_map_toNat {a b : List Int} (ha : ∀ n ∈ a, 0 ≤ n) (hb : ∀ n ∈ b, 0 ≤ n)
    (same : a.map Int.toNat = b.map Int.toNat) : a = b := by
  induction a generalizing b with
  | nil => exact (List.map_eq_nil_iff.1 same.symm).symm
  | cons n a ih =>
    cases b with
    | nil => cases same
    | cons n' b =>
      obtain ⟨first, rest⟩ := List.cons.inj same
      have head := eq_of_toNat (ha n (List.mem_cons_self ..)) (hb n' (List.mem_cons_self ..)) first
      have tail := ih (fun n member => ha n (List.mem_cons_of_mem _ member))
        (fun n member => hb n (List.mem_cons_of_mem _ member)) rest
      rw [head, tail]

end Chip8
