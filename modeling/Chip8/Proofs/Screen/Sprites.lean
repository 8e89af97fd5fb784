import Chip8.Proofs.Screen.Toggling
import Mathlib.Algebra.BigOperators.Fin
import Mathlib.Data.Int.Bitwise

namespace Chip8.Screen

variable {width height : Nat}

def cellAt (column : Fin width) (line : Fin height) : Fin (width * height) :=
  ⟨line * width + column, by
    have inside : line.val * width + width ≤ height * width := by
      rw [← Nat.succ_mul]
      exact Nat.mul_le_mul_right width line.isLt
    rw [Nat.mul_comm width height]
    omega⟩

/-- How many set bits of a sprite lie on a pixel. The rows may be any integers, in two's complement,
of which the lowest eight bits count, the highest of them leftmost. -/
def spriteHits (x y : Int) (rows : List Int) (column : Fin width) (line : Fin height) : Nat :=
  (Finset.univ.filter fun bit : Fin rows.length × Fin 8 =>
    rows[bit.1].testBit (7 - bit.2) ∧ (x + bit.2) % width = column ∧
      (y + bit.1) % height = line).card

theorem testBit_emod_256 (row : Int) {k : Nat} (low : k < 8) :
    (row % 256).toNat.testBit k = row.testBit k := by
  cases row with
  | ofNat n =>
    have byte : (Int.ofNat n % 256).toNat = n % 2 ^ 8 := by
      rw [Int.ofNat_eq_natCast]
      omega
    rw [byte, Nat.testBit_mod_two_pow]
    simp [low, Int.testBit]
  | negSucc n =>
    have byte : (Int.negSucc n % 256).toNat = 2 ^ 8 - (n % 2 ^ 8 + 1) := by
      rw [Int.negSucc_emod n (by decide)]
      omega
    rw [byte, Nat.testBit_two_pow_sub_succ (Nat.mod_lt n (by decide)), Nat.testBit_mod_two_pow]
    simp [low, Int.testBit]

theorem rowBit_eq (row : Int) (j : Fin 8) : rowBit row j = row.testBit (7 - j) :=
  testBit_emod_256 row (by omega)

theorem locate_eq_cellAt_iff (x y : Int) (column : Fin width) (line : Fin height) :
    locate width height x y = cellAt column line ↔ x % width = column ∧ y % height = line := by
  have hcolumn := column.isLt
  have hline := line.isLt
  have ownColumn : (column.val : Int) % width = column := Int.emod_eq_of_lt (by omega) (by omega)
  have ownLine : (line.val : Int) % height = line := Int.emod_eq_of_lt (by omega) (by omega)
  have own : (cellAt column line).val = locate width height column line := by
    simp only [locate, cellAt, ownColumn, ownLine]
    omega
  rw [own, locate_eq_iff (by omega) (by omega), ownColumn, ownLine]

theorem countP_range (n : Nat) (p : Nat → Bool) :
    (List.range n).countP p = ∑ j : Fin n, if p j then 1 else 0 := by
  induction n with
  | zero => rfl
  | succ n ih =>
    rw [List.range_succ, List.countP_append, ih, Fin.sum_univ_castSucc]
    simp [List.countP_cons]

theorem hits_rowPoints (x y row : Int) (column : Fin width) (line : Fin height) :
    hits width height (rowPoints x y row) (cellAt column line) =
      ∑ j : Fin 8, if row.testBit (7 - j) ∧ (x + j) % width = column ∧ y % height = line
        then 1 else 0 := by
  unfold hits rowPoints
  rw [List.countP_map, List.countP_filter, countP_range]
  refine Finset.sum_congr rfl fun j _ => ?_
  simp only [Function.comp, rowBit_eq, locate_eq_cellAt_iff, Bool.and_eq_true, decide_eq_true_eq]
  exact if_congr and_comm rfl rfl

theorem hits_points_eq_sum (x y : Int) (rows : List Int) (k : Nat) :
    hits width height (points x y rows) k =
      ∑ i : Fin rows.length, hits width height (rowPoints x (y + i) rows[i]) k := by
  induction rows generalizing y with
  | nil => rfl
  | cons row rows ih =>
    have below (i : Int) : y + (i + 1) = y + 1 + i := by omega
    simp only [points, List.length_cons]
    rw [hits_append, ih, Fin.sum_univ_succ]
    simp [below]

theorem hits_points (x y : Int) (rows : List Int) (column : Fin width) (line : Fin height) :
    hits width height (points x y rows) (cellAt column line) = spriteHits x y rows column line := by
  unfold spriteHits
  rw [hits_points_eq_sum, Finset.card_filter, Fintype.sum_prod_type]
  exact Finset.sum_congr rfl fun i _ => hits_rowPoints x (y + i) rows[i] column line

theorem exists_cellAt {p : Fin (width * height) → Prop} :
    (∃ k, p k) ↔ ∃ column line, p (cellAt column line) := by
  constructor
  · rintro ⟨⟨k, hk⟩, holds⟩
    have wide : 0 < width := Nat.pos_of_mul_pos_right (Nat.zero_lt_of_lt hk)
    have split : k = k / width * width + k % width := by
      rw [Nat.mul_comm, Nat.div_add_mod]
    refine ⟨⟨k % width, Nat.mod_lt k wide⟩, ⟨k / width, Nat.div_lt_of_lt_mul hk⟩, ?_⟩
    convert holds
    exact split.symm
  · rintro ⟨column, line, holds⟩
    exact ⟨_, holds⟩

theorem toNat_cells_toggleAll {screen : Screen width height} (binary : screen.IsBinary)
    (places : List (Int × Int)) (k : Fin (width * height)) :
    ((screen.toggleAll places).1.cells.get k).toNat =
      ((screen.cells.get k).toNat + hits width height places k) % 2 := by
  simp only [Bank.get_eq]
  rw [cells_toggleAll screen places k.isLt]
  have parity := Nat.mod_two_eq_zero_or_one (hits width height places k)
  rcases binary k k.isLt with dark | lit
  · rcases parity with even | odd
    · simp [dark, even]
    · simp [dark, odd]
  · rcases parity with even | odd
    · simp [lit, even, Nat.add_mod]
    · simp [lit, odd, Nat.add_mod]

theorem toggleAll_collides_iff {screen : Screen width height} (binary : screen.IsBinary)
    (places : List (Int × Int)) :
    (screen.toggleAll places).2 = true ↔
      ∃ k, 2 ≤ (screen.cells.get k).toNat + hits width height places k := by
  rw [toggleAll_collides]
  constructor
  · rintro ⟨k, hk, ⟨lit, once⟩ | ⟨dark, twice⟩⟩
    · exact ⟨⟨k, hk⟩, by simp [Bank.get_eq, lit]; omega⟩
    · exact ⟨⟨k, hk⟩, by simp [Bank.get_eq, dark, twice]⟩
  · rintro ⟨k, enough⟩
    refine ⟨k, k.isLt, ?_⟩
    rw [Bank.get_eq] at enough
    rcases binary k k.isLt with dark | lit
    · right
      rw [dark] at enough
      exact ⟨dark, by simpa using enough⟩
    · left
      rw [lit] at enough
      refine ⟨lit, ?_⟩
      simp at enough
      omega

/-- Drawing adds the hits of the sprite to each pixel, modulo two, and collides if and only if some
pixel reaches two. -/
theorem draw_adds_hits {screen : Screen width height} (binary : screen.IsBinary) (x y : Int)
    (rows : List Int) :
    (∀ column line, ((screen.draw x y rows).1.cells.get (cellAt column line)).toNat =
      ((screen.cells.get (cellAt column line)).toNat + spriteHits x y rows column line) % 2) ∧
    ((screen.draw x y rows).2 = true ↔
      ∃ column line, 2 ≤ (screen.cells.get (cellAt column line)).toNat +
        spriteHits x y rows column line) := by
  unfold draw
  constructor
  · intro column line
    rw [toNat_cells_toggleAll binary, hits_points]
  · rw [toggleAll_collides_iff binary, exists_cellAt]
    simp only [hits_points]

def checkered : Screen 3 2 where
  cells := #v[1, 0, 1, 0, 1, 0]

theorem checkered_isBinary : checkered.IsBinary := by
  intro k hk
  have inside : k = 0 ∨ k = 1 ∨ k = 2 ∨ k = 3 ∨ k = 4 ∨ k = 5 := by omega
  rcases inside with rfl | rfl | rfl | rfl | rfl | rfl <;> simp [checkered]

theorem draw_adds_hits_checkered :
    checkered.IsBinary ∧
      ((checkered.draw (-4) 7 [-1, 0x180]).1.cells.get (cellAt 0 1)).toNat = 1 ∧
      ((checkered.draw (-4) 7 [-1, 0x180]).1.cells.get (cellAt 2 0)).toNat = 0 ∧
      (checkered.draw (-4) 7 [-1, 0x180]).2 = true := by
  have law := draw_adds_hits checkered_isBinary (-4) 7 [-1, 0x180]
  refine ⟨checkered_isBinary, (law.1 0 1).trans ?_, (law.1 2 0).trans ?_, law.2.2 ⟨0, 1, ?_⟩⟩
  all_goals decide

end Chip8.Screen
