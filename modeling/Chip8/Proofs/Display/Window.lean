import Chip8.Display.Window
import Chip8.Proofs.Display.Conversation

namespace Chip8

structure Palette.Colours (palette : Palette) (frame : Array UInt8) (picture : Array Colour) :
    Prop where
  binary : ∀ pixel ∈ frame, pixel = 0 ∨ pixel = 1
  size : picture.size = frame.size
  dark : ∀ k : Nat, frame[k]? = some 0 → picture[k]? = some palette.background
  lit : ∀ k : Nat, frame[k]? = some 1 → picture[k]? = some palette.foreground

/-- The picture that the calls of an exchange bring onto the window, with its size: it is made,
scaled, laid onto the window and flipped there. -/
def Exchange.drawn (exchange : Exchange) : Option (Array Colour × Int × Int) :=
  match exchange.calls with
  | [.imageMade picture width height, .imageScaled _ _, .imageDrawn, .windowFlipped] =>
    some (picture, width, height)
  | _ => none

def Exchange.pictureSince : List Exchange → Option (Array Colour × Int × Int)
  | [] => none
  | ⟨.resolution _ _, _, none⟩ :: _ => none
  | exchange :: past => exchange.drawn.or (pictureSince past)

namespace Palette

theorem isSome_colour?_iff (palette : Palette) (pixel : UInt8) :
    (palette.colour? pixel).isSome = true ↔ pixel = 0 ∨ pixel = 1 := by
  have zero : pixel = 0 ↔ pixel.toNat = 0 := UInt8.toNat_inj.symm
  have one : pixel = 1 ↔ pixel.toNat = 1 := UInt8.toNat_inj.symm
  rw [zero, one]
  unfold colour?
  split <;> simp_all

end Palette

namespace Window

def answer (room : Room) (window : Window) : Request → Response Window
  | .resolution width height => window.setResolution room width height
  | .title text => window.setTitle text
  | .frame pixels _ => window.present pixels

variable {palette : Palette} {picture : Array Colour} {k : Nat} {pixels : List UInt8}

theorem putPixel_eq (inside : k < picture.size) (colour : Colour) :
    putPixel picture k colour = picture.setIfInBounds k colour := by
  unfold putPixel
  rw [if_pos inside]

theorem paint_cons_none {pixel : UInt8} (missing : palette.colour? pixel = none) :
    paint palette picture k (pixel :: pixels) = (picture, some .colourMissing) := by
  unfold paint
  rw [missing]

theorem paint_cons_some {pixel : UInt8} {colour : Colour}
    (found : palette.colour? pixel = some colour) (inside : k < picture.size) :
    paint palette picture k (pixel :: pixels) =
      paint palette (picture.setIfInBounds k colour) (k + 1) pixels := by
  rw [← putPixel_eq inside]
  simp only [paint, found]

theorem paint_fault_eq_none_iff (room : k + pixels.length ≤ picture.size) :
    (paint palette picture k pixels).2 = none ↔ ∀ pixel ∈ pixels, pixel = 0 ∨ pixel = 1 := by
  induction pixels generalizing picture k with
  | nil => simp [paint]
  | cons pixel pixels ih =>
    rw [List.length_cons] at room
    have binary := palette.isSome_colour?_iff pixel
    cases found : palette.colour? pixel with
    | none =>
      rw [found] at binary
      rw [paint_cons_none found]
      simp_all
    | some colour =>
      rw [found] at binary
      rw [paint_cons_some found (by omega), ih (by rw [Array.size_setIfInBounds]; omega)]
      simp_all

theorem paint_fault {fault : Fault} (room : k + pixels.length ≤ picture.size)
    (failed : (paint palette picture k pixels).2 = some fault) : fault = .colourMissing := by
  induction pixels generalizing picture k with
  | nil => cases failed
  | cons pixel pixels ih =>
    rw [List.length_cons] at room
    cases found : palette.colour? pixel with
    | none =>
      rw [paint_cons_none found] at failed
      exact (Option.some.inj failed).symm
    | some colour =>
      rw [paint_cons_some found (by omega)] at failed
      exact ih (by rw [Array.size_setIfInBounds]; omega) failed

theorem size_paint (room : k + pixels.length ≤ picture.size) :
    (paint palette picture k pixels).1.size = picture.size := by
  induction pixels generalizing picture k with
  | nil => rfl
  | cons pixel pixels ih =>
    rw [List.length_cons] at room
    cases found : palette.colour? pixel with
    | none => rw [paint_cons_none found]
    | some colour =>
      rw [paint_cons_some found (by omega), ih (by rw [Array.size_setIfInBounds]; omega),
        Array.size_setIfInBounds]

theorem paint_before {j : Nat} (room : k + pixels.length ≤ picture.size) (before : j < k) :
    (paint palette picture k pixels).1[j]? = picture[j]? := by
  induction pixels generalizing picture k with
  | nil => rfl
  | cons pixel pixels ih =>
    rw [List.length_cons] at room
    cases found : palette.colour? pixel with
    | none => rw [paint_cons_none found]
    | some colour =>
      rw [paint_cons_some found (by omega), ih (by rw [Array.size_setIfInBounds]; omega) (by omega),
        Array.getElem?_setIfInBounds_ne (by omega)]

theorem paint_pixel {j : Nat} {pixel : UInt8} (room : k + pixels.length ≤ picture.size)
    (done : (paint palette picture k pixels).2 = none) (here : pixels[j]? = some pixel) :
    (paint palette picture k pixels).1[k + j]? = palette.colour? pixel := by
  induction pixels generalizing picture k j with
  | nil => cases here
  | cons first pixels ih =>
    rw [List.length_cons] at room
    cases found : palette.colour? first with
    | none =>
      rw [paint_cons_none found] at done
      cases done
    | some colour =>
      rw [paint_cons_some found (by omega)] at done ⊢
      have room' : k + 1 + pixels.length ≤ (picture.setIfInBounds k colour).size := by
        rw [Array.size_setIfInBounds]
        omega
      cases j with
      | zero =>
        cases here
        change (paint palette (picture.setIfInBounds k colour) (k + 1) pixels).1[k]? = _
        rw [paint_before room' (Nat.lt_succ_self k),
          Array.getElem?_setIfInBounds_self_of_lt (by omega), found]
      | succ j =>
        have next := ih room' done here
        rw [← next]
        congr 1
        omega

theorem colours_paint {frame : Array UInt8} (room : frame.size = picture.size)
    (done : (paint palette picture 0 frame.toList).2 = none) :
    palette.Colours frame (paint palette picture 0 frame.toList).1 := by
  have inside : 0 + frame.toList.length ≤ picture.size := by
    rw [Array.length_toList]
    omega
  have painted {k : Nat} {pixel : UInt8} (here : frame[k]? = some pixel) :
      (paint palette picture 0 frame.toList).1[k]? = palette.colour? pixel := by
    rw [← Array.getElem?_toList] at here
    have pixel := paint_pixel inside done here
    rwa [Nat.zero_add] at pixel
  refine ⟨fun pixel member => ?_, ?_, fun k dark => painted dark, fun k lit => painted lit⟩
  · exact (paint_fault_eq_none_iff inside).1 done pixel (Array.mem_toList_iff.2 member)
  · rw [size_paint inside, room]

/-- A window of some scale and palette after some exchanges: its picture has the resolution set
last, it keeps the frame shown since, and the picture drawn last has the colours of that frame. -/
structure Current (scale : Int) (palette : Palette) (past : List Exchange) (window : Window) :
    Prop where
  scale : window.panel.scale = scale
  colours : window.palette = palette
  extent : (window.panel.width, window.panel.height) = Exchange.extent past
  bare : Exchange.resolution past = none → window.picture = none
  last : (Exchange.resolution past).isSome → window.last = Exchange.frameSince past
  picture : ∀ width height, Exchange.resolution past = some (width, height) →
    ∃ picture, window.picture = some picture ∧ (picture.size : Int) = width * height
  drawn : ∀ width height frame, Exchange.resolution past = some (width, height) →
    Exchange.frameSince past = some frame →
    ∃ picture, Exchange.pictureSince past = some (picture, width, height) ∧
      (picture.size : Int) = width * height ∧ palette.Colours frame picture

variable {scale : Int} {past : List Exchange} {window : Window}

theorem current_new (scale : Int) (palette : Palette) :
    Current scale palette [] (new scale palette) where
  scale := rfl
  colours := rfl
  extent := rfl
  bare _ := rfl
  last set := by cases set
  picture _ _ set := by cases set
  drawn _ _ _ set := by cases set

variable {room : Room}

theorem plain_eq_ok {colour : Colour} {width height : Int} {picture : Option (Array Colour)}
    (positive : 1 ≤ width ∧ 1 ≤ height) (made : plain room colour width height = .ok picture) :
    ∃ cells, picture = some cells ∧ (cells.size : Int) = width * height := by
  have area : 0 ≤ width * height := Int.mul_nonneg (by omega) (by omega)
  unfold plain at made
  rw [if_neg (by omega)] at made
  split at made
  · cases made
  split at made
  · cases made
  split at made
  · cases made
  cases made
  refine ⟨_, rfl, ?_⟩
  rw [Array.size_replicate]
  omega

theorem Current.unmoved {next : Window} {exchange : Exchange}
    (current : Current scale palette past window)
    (panel : next.panel.scale = window.panel.scale ∧ next.panel.width = window.panel.width ∧
      next.panel.height = window.panel.height)
    (colours : next.palette = window.palette) (last : next.last = window.last)
    (picture : next.picture.map Array.size = window.picture.map Array.size)
    (resolution : Exchange.resolution (exchange :: past) = Exchange.resolution past)
    (frame : Exchange.frameSince (exchange :: past) = Exchange.frameSince past)
    (drawn : Exchange.pictureSince (exchange :: past) = Exchange.pictureSince past) :
    Current scale palette (exchange :: past) next := by
  have extent : Exchange.extent (exchange :: past) = Exchange.extent past := by
    unfold Exchange.extent
    rw [resolution]
  refine ⟨?_, ?_, ?_, ?_, ?_, ?_, ?_⟩
  · exact panel.1.trans current.scale
  · exact colours.trans current.colours
  · rw [extent, panel.2.1, panel.2.2, current.extent]
  · intro unset
    rw [resolution] at unset
    rw [current.bare unset] at picture
    exact Option.map_eq_none_iff.1 picture
  · intro set
    rw [resolution] at set
    rw [frame, last, current.last set]
  · intro width height set
    rw [resolution] at set
    obtain ⟨cells, has, size⟩ := current.picture width height set
    rw [has] at picture
    obtain ⟨cells', has', same⟩ := Option.map_eq_some_iff.1 picture
    exact ⟨cells', has', by rw [same, size]⟩
  · intro width height shown set since
    rw [resolution] at set
    rw [frame] at since
    rw [drawn]
    exact current.drawn width height shown set since

theorem Current.setResolution (current : Current scale palette past window) {width height : Int}
    (positive : 1 ≤ width ∧ 1 ≤ height) :
    Current scale palette
      ((window.setResolution room width height).exchange (.resolution width height) :: past)
      (window.setResolution room width height).device := by
  unfold Window.setResolution
  cases made : plain room window.palette.background width height with
  | error fault => exact current.unmoved ⟨rfl, rfl, rfl⟩ rfl rfl rfl rfl rfl rfl
  | ok picture =>
    obtain ⟨cells, rfl, size⟩ := plain_eq_ok positive made
    refine ⟨current.scale, current.colours, rfl, nofun, fun _ => rfl, ?_, ?_⟩
    · rintro _ _ ⟨⟩
      exact ⟨cells, rfl, size⟩
    · intro _ _ _ _ since
      cases since

theorem Current.setTitle (current : Current scale palette past window) (text : String) :
    Current scale palette ((window.setTitle text).exchange (.title text) :: past)
      (window.setTitle text).device :=
  current.unmoved ⟨rfl, rfl, rfl⟩ rfl rfl rfl rfl rfl rfl

variable {width height : Int} {frame : Array UInt8} {cells : Array Colour} {size : Int × Int}

theorem present_of_unset (has : window.picture = none) :
    window.present frame = { device := window.counted } := by
  unfold present
  rw [has]

theorem present_of_shown (has : window.picture = some cells) (shown : window.last = some frame) :
    window.present frame = { device := window.counted } := by
  unfold present
  rw [has]
  exact if_pos shown

theorem present_of_failing (has : window.picture = some cells) (fresh : window.last ≠ some frame)
    {fault : Fault} (failed : (paint window.palette cells 0 frame.toList).2 = some fault) :
    window.present frame =
      { device := { window with picture := some (paint window.palette cells 0 frame.toList).1 }
        fault := some fault } := by
  unfold present
  rw [has]
  dsimp only
  rw [if_neg fresh, failed]

theorem present_of_painted (has : window.picture = some cells) (fresh : window.last ≠ some frame)
    (done : (paint window.palette cells 0 frame.toList).2 = none) :
    window.present frame =
      { device := { window with
          picture := some (paint window.palette cells 0 frame.toList).1
          last := some frame
          panel := window.panel.counted }
        calls := [
          .imageMade (paint window.palette cells 0 frame.toList).1 window.panel.width
            window.panel.height,
          .imageScaled window.panel.scale (Int.fdiv window.panel.scale 2),
          .imageDrawn,
          .windowFlipped] } := by
  unfold present
  rw [has]
  dsimp only
  rw [if_neg fresh, done]
  rfl

theorem Current.panel (current : Current scale palette past window)
    (set : Exchange.resolution past = some (width, height)) :
    window.panel.width = width ∧ window.panel.height = height := by
  have extent := current.extent
  unfold Exchange.extent at extent
  rw [set] at extent
  exact Prod.mk.inj extent

theorem Current.area (current : Current scale palette past window)
    (set : Exchange.resolution past = some (width, height))
    (fitting : Request.Fits past (.frame frame size)) :
    ∃ cells, window.picture = some cells ∧ frame.size = cells.size ∧
      (cells.size : Int) = width * height := by
  obtain ⟨cells, has, area⟩ := current.picture width height set
  have pixels : (frame.size : Int) = (Exchange.extent past).1 * (Exchange.extent past).2 := fitting
  unfold Exchange.extent at pixels
  rw [set] at pixels
  dsimp only [Option.getD_some] at pixels
  exact ⟨cells, has, by omega, area⟩

theorem Current.skips (current : Current scale palette past window)
    (set : Exchange.resolution past = some (width, height))
    (shown : Exchange.frameSince past = some frame) :
    (∀ pixel ∈ frame, pixel = 0 ∨ pixel = 1) ∧
      window.present frame = { device := window.counted } := by
  obtain ⟨picture, drawn, area, colours⟩ := current.drawn width height frame set shown
  obtain ⟨cells, has, -⟩ := current.picture width height set
  have last : window.last = Exchange.frameSince past := current.last (by rw [set]; rfl)
  exact ⟨colours.binary, present_of_shown has (last.trans shown)⟩

theorem Current.paints (current : Current scale palette past window)
    (set : Exchange.resolution past = some (width, height))
    (fitting : Request.Fits past (.frame frame size))
    (fresh : Exchange.frameSince past ≠ some frame) :
    ∃ picture : Array Colour, (picture.size : Int) = width * height ∧
      ((∀ pixel ∈ frame, pixel = 0 ∨ pixel = 1) →
        palette.Colours frame picture ∧
        window.present frame =
          { device := { window with
              picture := some picture
              last := some frame
              panel := window.panel.counted }
            calls := [.imageMade picture width height, .imageScaled scale (Int.fdiv scale 2),
              .imageDrawn, .windowFlipped] }) ∧
      ((¬ ∀ pixel ∈ frame, pixel = 0 ∨ pixel = 1) →
        window.present frame =
          { device := { window with picture := some picture }, fault := some .colourMissing }) := by
  obtain ⟨cells, has, room, area⟩ := current.area set fitting
  obtain ⟨columns, rows⟩ := current.panel set
  have last : window.last = Exchange.frameSince past := current.last (by rw [set]; rfl)
  rw [← last] at fresh
  have inside : 0 + frame.toList.length ≤ cells.size := by
    rw [Array.length_toList]
    omega
  have complete : (paint window.palette cells 0 frame.toList).2 = none ↔
      ∀ pixel ∈ frame.toList, pixel = 0 ∨ pixel = 1 := paint_fault_eq_none_iff inside
  refine ⟨(paint window.palette cells 0 frame.toList).1, ?_, fun binary => ?_, fun broken => ?_⟩
  · rw [size_paint inside, area]
  · have done := complete.2 fun pixel member => binary pixel (Array.mem_toList_iff.1 member)
    have drawn := present_of_painted has fresh done
    have colours := colours_paint room done
    rw [columns, rows, current.scale] at drawn
    rw [← current.colours]
    exact ⟨colours, drawn⟩
  · cases failed : (paint window.palette cells 0 frame.toList).2 with
    | none =>
      have binary := complete.1 failed
      exact absurd (fun pixel member => binary pixel (Array.mem_toList_iff.2 member)) broken
    | some fault => rw [present_of_failing has fresh failed, paint_fault inside failed]

theorem Current.presentUnset (current : Current scale palette past window)
    (unset : Exchange.resolution past = none) :
    Current scale palette ((window.present frame).exchange (.frame frame size) :: past)
      (window.present frame).device := by
  rw [present_of_unset (current.bare unset)]
  have still : Exchange.resolution (⟨.frame frame size, [], none⟩ :: past) = none := unset
  refine ⟨current.scale, current.colours, current.extent, fun _ => current.bare unset, ?_, ?_, ?_⟩
  · intro set
    cases still.symm.trans (Option.eq_some_of_isSome set)
  · intro width height set
    cases still.symm.trans set
  · intro width height shown set
    cases still.symm.trans set

theorem Current.presentSet (current : Current scale palette past window)
    (set : Exchange.resolution past = some (width, height))
    (fitting : Request.Fits past (.frame frame size)) :
    Current scale palette ((window.present frame).exchange (.frame frame size) :: past)
      (window.present frame).device := by
  have last : window.last = Exchange.frameSince past := current.last (by rw [set]; rfl)
  by_cases shown : Exchange.frameSince past = some frame
  · rw [(current.skips set shown).2]
    refine ⟨current.scale, current.colours, current.extent, current.bare, ?_, current.picture, ?_⟩
    · exact fun _ => last.trans shown
    · rintro w h _ set' ⟨⟩
      exact current.drawn w h frame set' shown
  · obtain ⟨picture, area, painted, halted⟩ := current.paints set fitting shown
    by_cases binary : ∀ pixel ∈ frame, pixel = 0 ∨ pixel = 1
    · obtain ⟨colours, drawn⟩ := painted binary
      rw [drawn]
      refine ⟨current.scale, current.colours, current.extent, fun unset => ?_, fun _ => rfl, ?_, ?_⟩
      · cases set.symm.trans unset
      · intro w h set'
        cases set.symm.trans set'
        exact ⟨picture, rfl, area⟩
      · rintro w h _ set' ⟨⟩
        cases set.symm.trans set'
        exact ⟨picture, rfl, area, colours⟩
    · rw [halted binary]
      obtain ⟨cells, has, room, area'⟩ := current.area set fitting
      -- Half painted, the picture still has its size, and what is next painted paints it all.
      refine current.unmoved ⟨rfl, rfl, rfl⟩ rfl rfl ?_ rfl rfl rfl
      have size : picture.size = cells.size := by omega
      rw [has]
      exact congrArg some size

theorem current_of_conversation
    (conversation : Conversation (answer room) (new scale palette) past window) :
    Current scale palette past window := by
  induction conversation with
  | opened => exact current_new scale palette
  | @asked past window before request fitting ih =>
    cases request with
    | resolution width height => exact ih.setResolution fitting
    | title text => exact ih.setTitle text
    | frame pixels size =>
      cases set : Exchange.resolution past with
      | none => exact ih.presentUnset set
      | some extent => exact ih.presentSet set fitting

/-- Once a resolution is set, the picture drawn last since then has that size and the colours of the
frame shown last. A frame is shown just if all its pixels are dark or lit, and it is drawn just if
it is the first one or another than the one shown last; one that is not shown makes no call. -/
theorem conversation_never_stale
    (conversation : Conversation (answer room) (new scale palette) past window)
    (set : Exchange.resolution past = some (width, height)) :
    (∀ frame, Exchange.frameSince past = some frame →
      ∃ picture, Exchange.pictureSince past = some (picture, width, height) ∧
        (picture.size : Int) = width * height ∧ palette.Colours frame picture) ∧
    ∀ frame size, Request.Fits past (.frame frame size) →
      let response := window.present frame
      (response.fault = none ↔ ∀ pixel ∈ frame, pixel = 0 ∨ pixel = 1) ∧
      (response.fault = none →
        response.device.panel.shown = window.panel.shown + 1 ∧
        (Exchange.frameSince past = some frame → response.calls = []) ∧
        (Exchange.frameSince past ≠ some frame →
          ∃ picture, palette.Colours frame picture ∧
            response.calls = [.imageMade picture width height,
              .imageScaled scale (Int.fdiv scale 2), .imageDrawn, .windowFlipped])) ∧
      ∀ fault, response.fault = some fault →
        fault = .colourMissing ∧ response.calls = [] ∧
          response.device.panel.shown = window.panel.shown := by
  have current := current_of_conversation conversation
  refine ⟨fun frame shown => current.drawn width height frame set shown,
    fun frame size fitting => ?_⟩
  by_cases shown : Exchange.frameSince past = some frame
  · obtain ⟨binary, same⟩ := current.skips set shown
    rw [same]
    exact ⟨iff_of_true rfl binary, fun _ => ⟨rfl, fun _ => rfl, fun fresh => absurd shown fresh⟩,
      nofun⟩
  · obtain ⟨picture, -, painted, halted⟩ := current.paints set fitting shown
    by_cases binary : ∀ pixel ∈ frame, pixel = 0 ∨ pixel = 1
    · obtain ⟨colours, drawn⟩ := painted binary
      rw [drawn]
      exact ⟨iff_of_true rfl binary, fun _ => ⟨rfl, fun same => absurd same shown,
        fun _ => ⟨picture, colours, rfl⟩⟩, nofun⟩
    · rw [halted binary]
      refine ⟨iff_of_false nofun binary, nofun, ?_⟩
      rintro fault ⟨⟩
      exact ⟨rfl, rfl, rfl⟩

theorem conversation_never_stale_retry :
    ∃ past window, Conversation (answer (· ≤ 6)) (new 640 Palette.standard) past window ∧
      Exchange.resolution past = some (2, 1) ∧ Exchange.frameSince past = some #[1, 0] ∧
      window.picture = some #[Palette.standard.background, Palette.standard.background] ∧
      (∃ picture, Exchange.pictureSince past = some (picture, 2, 1) ∧
        Palette.standard.Colours #[1, 0] picture) ∧
      (window.present #[1, 0]).fault = none ∧ (window.present #[1, 0]).calls = [] := by
  have start : Conversation (answer (· ≤ 6)) (new 640 Palette.standard) [] _ := .opened
  have sized := start.asked (.resolution 2 1) ⟨by decide, by decide⟩
  have shown := sized.asked (.frame #[1, 0] (0, 0)) rfl
  have failed := shown.asked (.frame #[0, 2] (0, 0)) rfl
  have never := conversation_never_stale failed rfl
  obtain ⟨picture, drawn, -, colours⟩ := never.1 #[1, 0] rfl
  obtain ⟨complete, again, -⟩ := never.2 #[1, 0] (0, 0) rfl
  have done := complete.2 (by simp)
  exact ⟨_, _, failed, rfl, rfl, rfl, ⟨picture, drawn, colours⟩, done, (again done).2.1 rfl⟩

end Window

end Chip8
