import Chip8.Proofs.Screen.Toggling

namespace Chip8

inductive Stroke where
  | sprite (x y : Int) (rows : List Int)
  | pixel (x y : Int)
deriving DecidableEq, Repr

namespace Stroke

def places : Stroke → List (Int × Int)
  | sprite x y rows => Screen.points x y rows
  | pixel x y => [(x, y)]

def shift (stroke : Stroke) (dx dy : Int) : Stroke :=
  match stroke with
  | sprite x y rows => sprite (x + dx) (y + dy) rows
  | pixel x y => pixel (x + dx) (y + dy)

end Stroke

namespace Screen

variable {width height : Nat}

def stroke (screen : Screen width height) : Stroke → Screen width height × Bool
  | .sprite x y rows => screen.draw x y rows
  | .pixel x y => screen.toggle x y

/-- Makes some strokes in order, and tells of each whether it collided. -/
def strokes (screen : Screen width height) : List Stroke → Screen width height × List Bool
  | [] => (screen, [])
  | first :: rest =>
    let (next, hit) := screen.stroke first
    let (last, hits) := next.strokes rest
    (last, hit :: hits)

theorem stroke_eq (screen : Screen width height) (stroke : Stroke) :
    screen.stroke stroke = screen.toggleAll stroke.places := by
  cases stroke with
  | sprite x y rows => rfl
  | pixel x y => simp [Screen.stroke, Stroke.places, toggleAll]

theorem strokes_fst (screen : Screen width height) (list : List Stroke) :
    (screen.strokes list).1 = (screen.toggleAll (list.flatMap Stroke.places)).1 := by
  induction list generalizing screen with
  | nil => rfl
  | cons first rest ih =>
    rw [List.flatMap_cons, toggleAll_append, ← stroke_eq, ← ih]
    rfl

theorem toggleAll_fst_congr (screen : Screen width height) {places other : List (Int × Int)}
    (parity : ∀ k, hits width height places k % 2 = hits width height other k % 2) :
    (screen.toggleAll places).1 = (screen.toggleAll other).1 := by
  refine congrArg Screen.mk (Vector.ext fun k hk => ?_)
  rw [cells_toggleAll screen places hk, cells_toggleAll screen other hk, parity k]

theorem hits_flatMap_perm {list other : List Stroke} (same : list.Perm other) (k : Nat) :
    hits width height (list.flatMap Stroke.places) k =
      hits width height (other.flatMap Stroke.places) k :=
  (same.flatMap_right Stroke.places).countP_eq _

theorem strokes_perm (screen : Screen width height) {list other : List Stroke}
    (same : list.Perm other) : (screen.strokes list).1 = (screen.strokes other).1 := by
  rw [strokes_fst, strokes_fst]
  refine toggleAll_fst_congr screen fun k => ?_
  rw [hits_flatMap_perm same]

theorem strokes_twice (screen : Screen width height) (twice : Stroke)
    (first middle last : List Stroke) :
    (screen.strokes (first ++ twice :: (middle ++ twice :: last))).1 =
      (screen.strokes (first ++ (middle ++ last))).1 := by
  rw [strokes_fst, strokes_fst]
  refine toggleAll_fst_congr screen fun k => ?_
  simp only [List.flatMap_append, List.flatMap_cons, hits_append]
  omega

theorem rowPoints_shift (x y row dx dy : Int) :
    rowPoints (x + dx) (y + dy) row =
      (rowPoints x y row).map fun place => (place.1 + dx, place.2 + dy) := by
  simp [rowPoints, Function.comp_def, Int.add_right_comm]

theorem points_shift (x y : Int) (rows : List Int) (dx dy : Int) :
    points (x + dx) (y + dy) rows =
      (points x y rows).map fun place => (place.1 + dx, place.2 + dy) := by
  induction rows generalizing y with
  | nil => rfl
  | cons row rows ih =>
    simp only [points, List.map_append, rowPoints_shift, ← ih, Int.add_right_comm]

theorem places_shift (stroke : Stroke) (dx dy : Int) :
    (stroke.shift dx dy).places =
      stroke.places.map fun place => (place.1 + dx, place.2 + dy) := by
  cases stroke with
  | sprite x y rows => exact points_shift x y rows dx dy
  | pixel x y => rfl

theorem toggle_wrap (screen : Screen width height) (x y a b : Int) :
    screen.toggle (x + a * width) (y + b * height) = screen.toggle x y := by
  simp only [toggle, pixel, locate_wrap]

theorem toggleAll_wrap (screen : Screen width height) (places : List (Int × Int)) (a b : Int) :
    screen.toggleAll (places.map fun place => (place.1 + a * width, place.2 + b * height)) =
      screen.toggleAll places := by
  induction places generalizing screen with
  | nil => rfl
  | cons place places ih =>
    simp only [List.map_cons, toggleAll, toggle_wrap, ih]

theorem stroke_wrap (screen : Screen width height) (stroke : Stroke) (a b : Int) :
    screen.stroke (stroke.shift (a * width) (b * height)) = screen.stroke stroke := by
  rw [stroke_eq, stroke_eq, places_shift, toggleAll_wrap]

theorem strokes_wrap (screen : Screen width height) {list other : List Stroke}
    (moved : List.Forall₂
      (fun stroke next => ∃ a b : Int, next = stroke.shift (a * width) (b * height)) list other) :
    screen.strokes other = screen.strokes list := by
  induction moved generalizing screen with
  | nil => rfl
  | cons first _ ih =>
    obtain ⟨a, b, rfl⟩ := first
    simp only [strokes, stroke_wrap, ih]

theorem draw_append (screen : Screen width height) (x y : Int) (above below : List Int) :
    screen.draw x y (above ++ below) =
      (((screen.draw x y above).1.draw x (y + above.length) below).1,
        (screen.draw x y above).2 ||
          ((screen.draw x y above).1.draw x (y + above.length) below).2) := by
  unfold draw
  rw [points_append, toggleAll_append]

/-- Neither the order of strokes can be seen nor a stroke that is made twice more, wherever that
happens. Strokes moved by whole screens, each by any number of them, leave the same picture and
collide alike. A sprite is drawn like its upper and then its lower part, and collides if one of them
does. -/
theorem strokes_unordered (screen : Screen width height) :
    (∀ list other : List Stroke, list.Perm other →
      (screen.strokes list).1 = (screen.strokes other).1) ∧
    (∀ (twice : Stroke) (first middle last : List Stroke),
      (screen.strokes (first ++ twice :: (middle ++ twice :: last))).1 =
        (screen.strokes (first ++ (middle ++ last))).1) ∧
    (∀ list other : List Stroke, List.Forall₂
      (fun stroke next => ∃ a b : Int, next = stroke.shift (a * width) (b * height)) list other →
        screen.strokes other = screen.strokes list) ∧
    (∀ (x y : Int) (above below : List Int),
      let upper := screen.draw x y above
      let lower := upper.1.draw x (y + above.length) below
      screen.draw x y (above ++ below) = (lower.1, upper.2 || lower.2)) :=
  ⟨fun _ _ => strokes_perm screen, strokes_twice screen, fun _ _ => strokes_wrap screen,
    draw_append screen⟩

def smudged : Screen 3 2 where
  cells := #v[1, 7, 0, 254, 1, 255]

theorem strokes_unordered_smudged :
    let cross := Stroke.sprite (-4) 7 [0x120, -128]
    let dot := Stroke.pixel 1 1
    [cross, dot].Perm [dot, cross] ∧
      (smudged.strokes [cross, dot]).2 = [true, false] ∧
      (smudged.strokes [dot, cross]).2 = [true, false] ∧
      (smudged.strokes [cross, dot]).1 = (smudged.strokes [dot, cross]).1 ∧
      smudged.strokes [.sprite 8 5 [0x120, -128], .pixel (-2) 3] =
        smudged.strokes [cross, dot] := by
  intro cross dot
  obtain ⟨order, -, moved, -⟩ := strokes_unordered smudged
  have swapped : [cross, dot].Perm [dot, cross] := .swap dot cross []
  refine ⟨swapped, by decide, by decide, order _ _ swapped, moved _ _ ?_⟩
  exact .cons ⟨4, -1, rfl⟩ (.cons ⟨-1, 1, rfl⟩ .nil)

end Screen

end Chip8
