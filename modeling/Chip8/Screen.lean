import Chip8.Bank

namespace Chip8

structure Screen (width height : Nat) where
  cells : Bank (width * height)
deriving DecidableEq, Inhabited

namespace Screen

variable {width height : Nat}

def dark (width height : Nat) : Screen width height where
  cells := Bank.zeros (width * height)

def dimensions (room : Room) (width height : Int) : Except Fault (Nat × Nat) :=
  if width ≤ 0 ∨ height ≤ 0 then .error .screenNotPositive
  else if !fits (width * height) then .error .sizeTooWide
  else if !hasRoom room (width * height) then .error .memoryExhausted
  else .ok (width.toNat, height.toNat)

/-- The cell of the pixel at a place, wrapped around the edges. -/
def locate (width height : Nat) (x y : Int) : Nat :=
  (y % height * width + x % width).toNat

def pixel (screen : Screen width height) (x y : Int) : UInt8 :=
  screen.cells.toArray.getD (locate width height x y) 0

/-- Toggles the pixel at a place; true reports a collision. -/
def toggle (screen : Screen width height) (x y : Int) : Screen width height × Bool :=
  let old := screen.pixel x y
  ({ cells := screen.cells.setIfInBounds (locate width height x y) (old ^^^ 1) }, old == 1)

def toggleAll (screen : Screen width height) : List (Int × Int) → Screen width height × Bool
  | [] => (screen, false)
  | (x, y) :: places =>
    let (next, hit) := screen.toggle x y
    let (last, hits) := next.toggleAll places
    (last, hit || hits)

def rowBit (row : Int) (column : Nat) : Bool :=
  (row % 256).toNat.testBit (7 - column)

def rowPoints (x y row : Int) : List (Int × Int) :=
  ((List.range 8).filter (rowBit row)).map fun (column : Nat) => (x + column, y)

def points (x y : Int) : List Int → List (Int × Int)
  | [] => []
  | row :: rows => rowPoints x y row ++ points x (y + 1) rows

def draw (screen : Screen width height) (x y : Int) (rows : List Int) :
    Screen width height × Bool :=
  screen.toggleAll (points x y rows)

def frame (screen : Screen width height) : Array UInt8 :=
  screen.cells.toArray

theorem locate_lt (hwidth : 0 < width) (hheight : 0 < height) (x y : Int) :
    locate width height x y < width * height := by
  have hx := Int.emod_lt_of_pos x (show (0 : Int) < width by omega)
  have hx' := Int.emod_nonneg x (show (width : Int) ≠ 0 by omega)
  have hy := Int.emod_lt_of_pos y (show (0 : Int) < height by omega)
  have hy' := Int.emod_nonneg y (show (height : Int) ≠ 0 by omega)
  have row : y % height * width ≤ (height - 1) * width :=
    Int.mul_le_mul_of_nonneg_right (by omega) (by omega)
  have total : ((height : Int) - 1) * width + width = width * height := by
    rw [Int.sub_mul, Int.mul_comm]
    omega
  have row' : 0 ≤ y % height * width := Int.mul_nonneg hy' (by omega)
  have area : ((width * height : Nat) : Int) = width * height := Int.natCast_mul ..
  unfold locate
  omega

theorem locate_wrap (x y a b : Int) :
    locate width height (x + a * width) (y + b * height) = locate width height x y := by
  simp [locate]

theorem toggleAll_append (screen : Screen width height) (before after : List (Int × Int)) :
    screen.toggleAll (before ++ after) =
      (((screen.toggleAll before).1.toggleAll after).1,
        (screen.toggleAll before).2 || ((screen.toggleAll before).1.toggleAll after).2) := by
  induction before generalizing screen with
  | nil => simp [toggleAll]
  | cons place places ih => simp [toggleAll, ih, Bool.or_assoc]

theorem points_append (x y : Int) (above below : List Int) :
    points x y (above ++ below) = points x y above ++ points x (y + above.length) below := by
  induction above generalizing y with
  | nil => simp [points]
  | cons row rows ih => simp [points, ih, Int.add_assoc, Int.add_comm 1]

end Screen

end Chip8
