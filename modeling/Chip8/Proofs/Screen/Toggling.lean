import Chip8.Screen
import Mathlib.Data.List.Nodup
import Mathlib.Data.List.Count

namespace Chip8.Screen

variable {width height : Nat}

def hits (width height : Nat) (places : List (Int × Int)) (k : Nat) : Nat :=
  places.countP fun place => locate width height place.1 place.2 = k

theorem hits_cons (place : Int × Int) (places : List (Int × Int)) (k : Nat) :
    hits width height (place :: places) k =
      hits width height places k + if locate width height place.1 place.2 = k then 1 else 0 := by
  simp [hits, List.countP_cons]

theorem hits_append (before after : List (Int × Int)) (k : Nat) :
    hits width height (before ++ after) k =
      hits width height before k + hits width height after k :=
  List.countP_append

theorem toggle_pixel_twice (pixel : UInt8) : pixel ^^^ 1 ^^^ 1 = pixel := by
  rw [UInt8.xor_assoc, UInt8.xor_self, UInt8.xor_zero]

theorem toggled_lit_iff (pixel : UInt8) : pixel ^^^ 1 = 1 ↔ pixel = 0 := by
  constructor
  · intro lit
    rw [← toggle_pixel_twice pixel, lit]
    rfl
  · rintro rfl
    rfl

theorem toggled_dark_iff (pixel : UInt8) : pixel ^^^ 1 = 0 ↔ pixel = 1 := by
  constructor
  · intro dark
    rw [← toggle_pixel_twice pixel, dark]
    rfl
  · rintro rfl
    rfl

theorem cells_toggle (screen : Screen width height) (x y : Int) {k : Nat}
    (hk : k < width * height) :
    (screen.toggle x y).1.cells[k] =
      if locate width height x y = k then screen.cells[k] ^^^ 1 else screen.cells[k] := by
  by_cases here : locate width height x y = k
  · subst here
    simp [toggle, pixel, hk]
  · simp [toggle, here]

theorem toggle_collides (screen : Screen width height) (x y : Int) :
    (screen.toggle x y).2 = true ↔
      ∃ k, ∃ hk : k < width * height, locate width height x y = k ∧ screen.cells[k] = 1 := by
  simp only [toggle, pixel, beq_iff_eq]
  by_cases inside : locate width height x y < width * height
  · simp [inside]
  · simp [inside, Array.getD]

theorem cells_toggleAll (screen : Screen width height) (places : List (Int × Int)) {k : Nat}
    (hk : k < width * height) :
    (screen.toggleAll places).1.cells[k] =
      if hits width height places k % 2 = 1 then screen.cells[k] ^^^ 1 else screen.cells[k] := by
  induction places generalizing screen with
  | nil => simp [toggleAll, hits]
  | cons place places ih =>
    obtain ⟨x, y⟩ := place
    simp only [toggleAll]
    rw [ih, cells_toggle screen x y hk, hits_cons]
    have parity := Nat.mod_two_eq_zero_or_one (hits width height places k)
    by_cases here : locate width height x y = k
    · rcases parity with even | odd
      · simp [here, even, Nat.add_mod]
      · rw [if_pos odd, if_pos here, if_pos here, toggle_pixel_twice, if_neg (by omega)]
    · simp [here]

theorem toggleAll_collides (screen : Screen width height) (places : List (Int × Int)) :
    (screen.toggleAll places).2 = true ↔
      ∃ k, ∃ hk : k < width * height,
        screen.cells[k] = 1 ∧ 1 ≤ hits width height places k ∨
        screen.cells[k] = 0 ∧ 2 ≤ hits width height places k := by
  induction places generalizing screen with
  | nil => simp [toggleAll, hits]
  | cons place places ih =>
    obtain ⟨x, y⟩ := place
    simp only [toggleAll, Bool.or_eq_true]
    rw [ih, toggle_collides, ← exists_or]
    refine exists_congr fun k => ?_
    rw [← exists_or]
    refine exists_congr fun hk => ?_
    rw [cells_toggle screen x y hk, hits_cons]
    -- A hit changes a dark cell into one that the next hit collides with, and a lit cell into one
    -- that it has just collided with.
    by_cases here : locate width height x y = k
    · simp only [here, true_and, if_true, toggled_lit_iff, toggled_dark_iff]
      constructor
      · rintro (lit | ⟨dark, once⟩ | ⟨lit, -⟩)
        · exact .inl ⟨lit, by omega⟩
        · exact .inr ⟨dark, by omega⟩
        · exact .inl ⟨lit, by omega⟩
      · rintro (⟨lit, -⟩ | ⟨dark, twice⟩)
        · exact .inl lit
        · exact .inr (.inl ⟨dark, by omega⟩)
    · simp only [here, false_and, false_or, if_false, Nat.add_zero]

def IsBinary (screen : Screen width height) : Prop :=
  ∀ k, ∀ hk : k < width * height, screen.cells[k] = 0 ∨ screen.cells[k] = 1

theorem dark_isBinary : (dark width height).IsBinary := by
  intro k hk
  left
  exact Bank.getElem_zeros k hk

theorem IsBinary.draw {screen : Screen width height} (binary : screen.IsBinary) (x y : Int)
    (rows : List Int) : (screen.draw x y rows).1.IsBinary := by
  intro k hk
  unfold Screen.draw
  rw [cells_toggleAll screen _ hk]
  split
  · rw [toggled_dark_iff, toggled_lit_iff]
    exact (binary k hk).symm
  · exact binary k hk

theorem locate_eq_iff (hwidth : 0 < width) (hheight : 0 < height) (x y x' y' : Int) :
    locate width height x y = locate width height x' y' ↔
      x % width = x' % width ∧ y % height = y' % height := by
  have low := Int.emod_nonneg x (show (width : Int) ≠ 0 by omega)
  have low' := Int.emod_nonneg x' (show (width : Int) ≠ 0 by omega)
  have high := Int.emod_lt_of_pos x (show (0 : Int) < width by omega)
  have high' := Int.emod_lt_of_pos x' (show (0 : Int) < width by omega)
  have row := Int.mul_nonneg (Int.emod_nonneg y (show (height : Int) ≠ 0 by omega))
    (show (0 : Int) ≤ width by omega)
  have row' := Int.mul_nonneg (Int.emod_nonneg y' (show (height : Int) ≠ 0 by omega))
    (show (0 : Int) ≤ width by omega)
  constructor
  · intro same
    have sum : x % width + y % height * width = x' % width + y' % height * width := by
      unfold locate at same
      omega
    have column := congrArg (· % (width : Int)) sum
    simp only [Int.add_mul_emod_self_right, Int.emod_eq_of_lt low high,
      Int.emod_eq_of_lt low' high'] at column
    have line : y % height * width = y' % height * width := by omega
    exact ⟨column, Int.eq_of_mul_eq_mul_right (by omega) line⟩
  · rintro ⟨column, line⟩
    rw [locate, locate, column, line]

theorem mem_rowPoints (x y row : Int) (place : Int × Int) :
    place ∈ rowPoints x y row ↔ ∃ j : Nat, j < 8 ∧ rowBit row j ∧ place = (x + j, y) := by
  simp only [rowPoints, List.mem_map, List.mem_filter, List.mem_range]
  constructor
  · rintro ⟨j, ⟨hj, set⟩, rfl⟩
    exact ⟨j, hj, set, rfl⟩
  · rintro ⟨j, hj, set, rfl⟩
    exact ⟨j, ⟨hj, set⟩, rfl⟩

theorem mem_points (x y : Int) (rows : List Int) (place : Int × Int) :
    place ∈ points x y rows ↔
      ∃ i, ∃ hi : i < rows.length, ∃ j : Nat,
        j < 8 ∧ rowBit rows[i] j ∧ place = (x + j, y + i) := by
  induction rows generalizing y with
  | nil => simp [points]
  | cons row rows ih =>
    simp only [points, List.mem_append, mem_rowPoints, ih]
    constructor
    · rintro (⟨j, hj, set, rfl⟩ | ⟨i, hi, j, hj, set, rfl⟩)
      · exact ⟨0, by simp, j, hj, set, by simp⟩
      · refine ⟨i + 1, by simpa using hi, j, hj, set, ?_⟩
        simp only [Prod.mk.injEq, true_and]
        omega
    · rintro ⟨i, hi, j, hj, set, rfl⟩
      cases i with
      | zero => exact .inl ⟨j, hj, set, by simp⟩
      | succ i =>
        refine .inr ⟨i, by simpa using hi, j, hj, set, ?_⟩
        simp only [Prod.mk.injEq, true_and]
        omega

theorem eq_of_emod_eq {a b size : Int} (same : a % size = b % size) (near : a - b < size)
    (near' : b - a < size) : a = b := by
  have whole := Int.dvd_of_emod_eq_zero (Int.emod_eq_emod_iff_emod_sub_eq_zero.1 same)
  have zero := Int.eq_zero_of_dvd_of_natAbs_lt_natAbs whole (by omega)
  omega

theorem rowPoints_apart (hwidth : 8 ≤ width) (hheight : 0 < height) (x y row : Int) :
    (rowPoints x y row).Pairwise fun place other =>
      locate width height place.1 place.2 ≠ locate width height other.1 other.2 := by
  unfold rowPoints
  rw [List.pairwise_map]
  refine List.Pairwise.imp_of_mem ?_ (List.nodup_range.filter _)
  intro j j' hj hj' different same
  simp only [List.mem_filter, List.mem_range] at hj hj'
  have column := ((locate_eq_iff (by omega) hheight _ _ _ _).1 same).1
  have equal := eq_of_emod_eq column (by omega) (by omega)
  omega

theorem points_apart (hwidth : 8 ≤ width) (x y : Int) (rows : List Int)
    (hheight : rows.length ≤ height) :
    (points x y rows).Pairwise fun place other =>
      locate width height place.1 place.2 ≠ locate width height other.1 other.2 := by
  induction rows generalizing y with
  | nil => exact List.Pairwise.nil
  | cons row rows ih =>
    rw [List.length_cons] at hheight
    refine List.pairwise_append.2 ⟨?_, ih (y + 1) (by omega), ?_⟩
    · exact rowPoints_apart hwidth (by omega) x y row
    · -- The rows below the first one stay less than a whole screen apart from it.
      intro place above other below same
      obtain ⟨j, -, -, rfl⟩ := (mem_rowPoints x y row place).1 above
      obtain ⟨i, hi, j', -, -, rfl⟩ := (mem_points x (y + 1) rows other).1 below
      have line := ((locate_eq_iff (by omega) (by omega) _ _ _ _).1 same).2
      have equal := eq_of_emod_eq line (by omega) (by omega)
      omega

theorem hits_points_le_one (hwidth : 8 ≤ width) (x y : Int) (rows : List Int)
    (hheight : rows.length ≤ height) (k : Nat) :
    hits width height (points x y rows) k ≤ 1 := by
  have apart := points_apart hwidth x y rows hheight
  have distinct : ((points x y rows).map fun place =>
      locate width height place.1 place.2).Nodup := List.pairwise_map.2 apart
  have once := List.nodup_iff_count_le_one.1 distinct k
  rw [List.count_eq_countP, List.countP_map] at once
  unfold hits
  refine Nat.le_trans (Nat.le_of_eq (List.countP_congr fun place _ => ?_)) once
  simp

theorem hits_pos_iff (places : List (Int × Int)) (k : Nat) :
    1 ≤ hits width height places k ↔
      ∃ place ∈ places, locate width height place.1 place.2 = k := by
  unfold hits
  rw [Nat.one_le_iff_ne_zero, Nat.ne_zero_iff_zero_lt, List.countP_pos_iff]
  simp

def Covers (width height : Nat) (x y : Int) (rows : List Int) (k : Nat) : Prop :=
  ∃ place ∈ points x y rows, locate width height place.1 place.2 = k

open Classical in
theorem cells_draw (hwidth : 8 ≤ width) (screen : Screen width height) (x y : Int)
    (rows : List Int) (hheight : rows.length ≤ height) {k : Nat} (hk : k < width * height) :
    (screen.draw x y rows).1.cells[k] =
      if Covers width height x y rows k then screen.cells[k] ^^^ 1 else screen.cells[k] := by
  have once := hits_points_le_one hwidth x y rows hheight k
  unfold draw
  rw [cells_toggleAll screen _ hk]
  refine if_congr ?_ rfl rfl
  unfold Covers
  rw [← hits_pos_iff]
  omega

theorem draw_collides (hwidth : 8 ≤ width) (screen : Screen width height) (x y : Int)
    (rows : List Int) (hheight : rows.length ≤ height) :
    (screen.draw x y rows).2 = true ↔
      ∃ k, ∃ hk : k < width * height, Covers width height x y rows k ∧ screen.cells[k] = 1 := by
  unfold draw
  rw [toggleAll_collides]
  refine exists_congr fun k => exists_congr fun hk => ?_
  have once := hits_points_le_one hwidth x y rows hheight k
  unfold Covers
  rw [← hits_pos_iff]
  constructor
  · rintro (⟨lit, hit⟩ | ⟨-, twice⟩)
    · exact ⟨hit, lit⟩
    · omega
  · rintro ⟨hit, lit⟩
    exact .inl ⟨lit, hit⟩

end Chip8.Screen
