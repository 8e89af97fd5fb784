import Chip8.Display.Terminal
import Chip8.Proofs.Display.Stage
import Mathlib.Data.List.GetD
import Mathlib.Tactic.Linarith

namespace Chip8

namespace Pad

/-- The cells of pixel `k` are blanks, and reversed if it is lit. -/
def ShowsPixel (pad : Pad) (width scale : Int) (k : Nat) (pixel : UInt8) : Prop :=
  ∀ j, 0 ≤ j → j < scale →
    pad.cells (k / width + 1) (k % width * scale + j) = ⟨' ', pixel != 0⟩

def ShowsFrame (pad : Pad) (width height scale : Int) (pixels : Array UInt8) : Prop :=
  ∀ x y j, 0 ≤ x → x < width → 0 ≤ y → y < height → 0 ≤ j → j < scale →
    pad.cells (y + 1) (x * scale + j) = ⟨' ', pixels.getD (y * width + x).toNat 0 != 0⟩

/-- The top row is a reversed title, filled with blanks to the width of the pixels. -/
def ShowsTitle (pad : Pad) (width scale : Int) (text : String) : Prop :=
  ∀ c, 0 ≤ c → c < width * scale → pad.cells 0 c = ⟨text.toList.getD c.toNat ' ', true⟩

/-- A pad that shows some pixels from place `k` on, and all else that it showed before. -/
structure Redrawn (width scale : Int) (k : Nat) (pixels : List UInt8) (before after : Pad) :
    Prop where
  rows : after.rows = before.rows
  columns : after.columns = before.columns
  title : ∀ c, after.cells 0 c = before.cells 0 c
  others : ∀ (i : Nat) pixel, i < k ∨ k + pixels.length ≤ i →
    before.ShowsPixel width scale i pixel → after.ShowsPixel width scale i pixel
  pixels : ∀ (i : Nat) pixel, pixels[i]? = some pixel → after.ShowsPixel width scale (k + i) pixel

variable {pad : Pad} {width height scale columns : Int} {text : String} {k : Nat}

theorem pixel_place (wide : 1 ≤ width) (stretched : 1 ≤ scale)
    (inside : (k : Int) < width * height) :
    0 ≤ (k : Int) / width ∧ (k : Int) / width < height ∧
      0 ≤ (k : Int) % width * scale ∧ (k : Int) % width * scale + scale ≤ width * scale := by
  have column := Int.emod_lt_of_pos (k : Int) (show 0 < width by omega)
  have column' := Int.emod_nonneg (k : Int) (show width ≠ 0 by omega)
  refine ⟨Int.ediv_nonneg (by omega) (by omega), ?_, Int.mul_nonneg column' (by omega), ?_⟩
  · exact Int.ediv_lt_of_lt_mul (by omega) (by rwa [Int.mul_comm])
  · nlinarith

theorem showsFrame_of_pixels {frame : Array UInt8} (size : (frame.size : Int) = width * height)
    (shown : ∀ (i : Nat) pixel, frame[i]? = some pixel → pad.ShowsPixel width scale i pixel) :
    pad.ShowsFrame width height scale frame := by
  intro x y j left right top bottom low high
  have start : 0 ≤ y * width := Int.mul_nonneg top (by omega)
  have row : y * width + width ≤ width * height := by nlinarith
  obtain ⟨k, place⟩ := Int.eq_ofNat_of_zero_le (show 0 ≤ y * width + x by omega)
  have inside : k < frame.size := by omega
  have quotient : (k : Int) / width = y := by
    rw [← place, Int.mul_comm, Int.mul_add_ediv_left y x (by omega),
      Int.ediv_eq_zero_of_lt left right, Int.add_zero]
  have remainder : (k : Int) % width = x := by
    rw [← place, Int.mul_comm, Int.mul_add_emod_self_left, Int.emod_eq_of_lt left right]
  have pixel := shown k frame[k] (Array.getElem?_eq_getElem inside) j low high
  rw [quotient, remainder] at pixel
  rw [pixel, place, Int.toNat_natCast, Array.getD_eq_getD_getElem?,
    Array.getElem?_eq_getElem inside]
  rfl

theorem eq_of_pixels_meet {a b j : Int} (low : 0 ≤ j) (high : j < scale)
    (left : a * scale ≤ b * scale + j) (right : b * scale + j < a * scale + scale) : a = b := by
  -- A pixel is as wide as another, so one that began before another would have ended by then.
  rcases Int.lt_trichotomy a b with less | same | more
  · nlinarith
  · exact same
  · nlinarith

theorem length_pixelText (scale : Int) : (Terminal.pixelText scale).length = scale.toNat := by
  rw [← String.length_toList, Terminal.toList_pixelText, List.length_replicate]

theorem showsPixel_write_self (wide : 1 ≤ width) (stretched : 1 ≤ scale)
    (rows : pad.rows = height + 2) (columns : pad.columns = width * scale + 1)
    (inside : (k : Int) < width * height) (pixel : UInt8) :
    (pad.write (k / width + 1) (k % width * scale) (Terminal.pixelText scale)
      (pixel != 0)).ShowsPixel width scale k pixel := by
  obtain ⟨top, bottom, left, right⟩ := pixel_place wide stretched inside
  intro j low high
  unfold Pad.write
  dsimp only
  rw [length_pixelText, if_pos (by omega), Terminal.toList_pixelText]
  congr 1
  rw [List.getD_eq_getElem?_getD, List.getElem?_replicate]
  split <;> rfl

theorem showsPixel_write_other {i : Nat} (other : i ≠ k) {pixel : UInt8}
    (shown : pad.ShowsPixel width scale i pixel) (reversed : Bool) :
    (pad.write (k / width + 1) (k % width * scale) (Terminal.pixelText scale)
      reversed).ShowsPixel width scale i pixel := by
  intro j low high
  rw [← shown j low high]
  refine if_neg ?_
  rw [length_pixelText]
  rintro ⟨row, left, right, -⟩
  have column : (k : Int) % width = (i : Int) % width :=
    eq_of_pixels_meet low high left (by omega)
  have place := Int.mul_ediv_add_emod (k : Int) width
  have place' := Int.mul_ediv_add_emod (i : Int) width
  have row' : (i : Int) / width = (k : Int) / width := by omega
  rw [column, ← row'] at place
  omega

theorem write_keeps_title (wide : 1 ≤ width) (text : String) (column : Int) (reversed : Bool)
    (c : Int) : (pad.write (k / width + 1) column text reversed).cells 0 c = pad.cells 0 c := by
  have top : 0 ≤ (k : Int) / width := Int.ediv_nonneg (by omega) (by omega)
  refine if_neg ?_
  rintro ⟨row, -⟩
  omega

theorem length_filled (short : text.length < columns) :
    ((Terminal.filled text columns).length : Int) = columns := by
  rw [← String.length_toList, Terminal.toList_filled, List.length_append, List.length_replicate,
    String.length_toList]
  omega

theorem showsTitle_write (tall : 0 ≤ height) (rows : pad.rows = height + 2)
    (columns : pad.columns = width * scale + 1) (short : text.length < width * scale) :
    (pad.write 0 0 (Terminal.filled text (width * scale)) true).ShowsTitle width scale text := by
  have length := length_filled short
  intro c low high
  unfold Pad.write
  dsimp only
  rw [if_pos (by omega), Terminal.toList_filled, Int.sub_zero]
  congr 1
  by_cases written : c.toNat < text.toList.length
  · rw [List.getD_append _ _ _ _ written]
  · have blank : text.toList.length ≤ c.toNat := by omega
    rw [List.getD_append_right _ _ _ _ blank, List.getD_eq_default _ _ blank,
      List.getD_eq_getElem?_getD, List.getElem?_replicate]
    split <;> rfl

theorem showsPixel_write_title {pixel : UInt8} (wide : 0 ≤ width)
    (shown : pad.ShowsPixel width scale k pixel) (column : Int) (reversed : Bool) :
    (pad.write 0 column text reversed).ShowsPixel width scale k pixel := by
  have top : 0 ≤ (k : Int) / width := Int.ediv_nonneg (by omega) wide
  intro j low high
  rw [← shown j low high]
  refine if_neg ?_
  rintro ⟨row, -⟩
  omega

theorem Redrawn.nothing : Redrawn width scale k [] pad pad where
  rows := rfl
  columns := rfl
  title _ := rfl
  others _ _ _ shown := shown
  pixels _ _ here := by cases here

variable {pixel : UInt8} {pixels : List UInt8} {after : Pad}

theorem Redrawn.cons {between : Pad} (rest : Redrawn width scale (k + 1) pixels between after)
    (rows : between.rows = pad.rows) (columns : between.columns = pad.columns)
    (title : ∀ c, between.cells 0 c = pad.cells 0 c)
    (others : ∀ (i : Nat) old, i ≠ k → pad.ShowsPixel width scale i old →
      between.ShowsPixel width scale i old)
    (shown : between.ShowsPixel width scale k pixel) :
    Redrawn width scale k (pixel :: pixels) pad after where
  rows := rest.rows.trans rows
  columns := rest.columns.trans columns
  title c := (rest.title c).trans (title c)
  others i old apart older := by
    rw [List.length_cons] at apart
    exact rest.others i old (by omega) (others i old (by omega) older)
  pixels i new here := by
    cases i with
    | zero =>
      cases here
      exact rest.others k pixel (by omega) shown
    | succ i =>
      have next := rest.pixels i new here
      rwa [Nat.add_assoc, Nat.add_comm 1 i] at next

theorem Redrawn.skip (shown : pad.ShowsPixel width scale k pixel)
    (rest : Redrawn width scale (k + 1) pixels pad after) :
    Redrawn width scale k (pixel :: pixels) pad after :=
  rest.cons rfl rfl (fun _ => rfl) (fun _ _ _ older => older) shown

theorem Redrawn.write (wide : 1 ≤ width) (stretched : 1 ≤ scale)
    (rows : pad.rows = height + 2) (columns : pad.columns = width * scale + 1)
    (inside : (k : Int) < width * height)
    (rest : Redrawn width scale (k + 1) pixels
      (pad.write (k / width + 1) (k % width * scale) (Terminal.pixelText scale) (pixel != 0))
      after) :
    Redrawn width scale k (pixel :: pixels) pad after := by
  refine rest.cons rfl rfl (write_keeps_title wide _ _ _) (fun i old other older => ?_) ?_
  · exact showsPixel_write_other other older _
  · exact showsPixel_write_self wide stretched rows columns inside pixel

end Pad

end Chip8
