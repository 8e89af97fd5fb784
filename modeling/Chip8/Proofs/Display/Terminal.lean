import Chip8.Proofs.Display.Pad

namespace Chip8

namespace Terminal

def answer (room : Room) (resizes : Bool) (terminal : Terminal) : Request → Response Terminal
  | .resolution width height => terminal.setResolution width height
  | .title text => terminal.setTitle room text
  | .frame pixels size => terminal.present pixels size resizes

variable {panel : Panel} {text : String} {last : Option (Array UInt8)} {k : Nat} {pixel : UInt8}
  {pixels : List UInt8}

theorem changes_cons_same (same : differs last k pixel = .ok false) :
    changes panel text last k (pixel :: pixels) = changes panel text last (k + 1) pixels := by
  simp only [changes, same]

theorem changes_cons_different (wide : 1 ≤ panel.width)
    (different : differs last k pixel = .ok true) :
    changes panel text last k (pixel :: pixels) =
      (.padWritten (k / panel.width + 1) (k % panel.width * panel.scale) text (pixel != 0) ::
          (changes panel text last (k + 1) pixels).1,
        (changes panel text last (k + 1) pixels).2) := by
  have call : pixelCall panel text k pixel = .ok
      (.padWritten (k / panel.width + 1) (k % panel.width * panel.scale) text (pixel != 0)) := by
    unfold pixelCall
    rw [if_neg (by omega), Int.fdiv_eq_ediv_of_nonneg _ (by omega),
      Int.fmod_eq_emod_of_nonneg _ (by omega)]
  simp only [changes, different, call]

theorem changes_of_none (wide : 1 ≤ panel.width) :
    (changes panel text none k pixels).1.length = pixels.length := by
  induction pixels generalizing k with
  | nil => rfl
  | cons pixel pixels ih =>
    rw [changes_cons_different wide rfl, List.length_cons, List.length_cons, ih]

theorem changes_of_self {frame : Array UInt8} (rest : frame.toList.drop k = pixels) :
    changes panel text (some frame) k pixels = ([], none) := by
  induction pixels generalizing k with
  | nil => rfl
  | cons pixel pixels ih =>
    have here : frame[k]? = some pixel := by
      rw [← Array.getElem?_toList, ← List.head?_drop, rest]
      rfl
    have same : differs (some frame) k pixel = .ok false := by
      simp [differs, here]
    have next : frame.toList.drop (k + 1) = pixels := by
      rw [← List.drop_drop, rest]
      rfl
    rw [changes_cons_same same, ih next]

theorem differs_cases (reaches : ∀ frame, last = some frame → k < frame.size) (pixel : UInt8) :
    differs last k pixel = .ok true ∨
      differs last k pixel = .ok false ∧ ∃ frame, last = some frame ∧ frame[k]? = some pixel := by
  cases last with
  | none => exact .inl rfl
  | some frame =>
    have inside := reaches frame rfl
    by_cases same : frame[k] = pixel
    · subst same
      exact .inr ⟨by simp [differs, inside], frame, rfl, Array.getElem?_eq_getElem inside⟩
    · exact .inl (by simp [differs, inside, same])

theorem redrawn_changes {height : Int} {stage : Stage} (wide : 1 ≤ panel.width)
    (stretched : 1 ≤ panel.scale) (rows : stage.pad.rows = height + 2)
    (columns : stage.pad.columns = panel.width * panel.scale + 1)
    (inside : (k : Int) + pixels.length ≤ panel.width * height)
    (reaches : ∀ frame, last = some frame → k + pixels.length ≤ frame.size)
    (older : ∀ frame, last = some frame → ∀ (i : Nat) old, k ≤ i → frame[i]? = some old →
      stage.pad.ShowsPixel panel.width panel.scale i old) :
    ∃ calls pad, changes panel (pixelText panel.scale) last k pixels = (calls, none) ∧
      stage.replay calls = { stage with pad } ∧
      Pad.Redrawn panel.width panel.scale k pixels stage.pad pad := by
  induction pixels generalizing k stage with
  | nil => exact ⟨[], stage.pad, rfl, rfl, .nothing⟩
  | cons pixel pixels ih =>
    rw [List.length_cons] at inside
    have reaches' (frame : Array UInt8) (kept : last = some frame) :
        k + 1 + pixels.length ≤ frame.size := by
      have all := reaches frame kept
      rw [List.length_cons] at all
      omega
    have reached (frame : Array UInt8) (kept : last = some frame) : k < frame.size := by
      have all := reaches' frame kept
      omega
    rcases differs_cases reached pixel with different | ⟨same, frame, kept, here⟩
    -- The pixels behind the one written lie apart from it, so the pad still shows the old ones.
    · have older' (frame : Array UInt8) (kept : last = some frame) (i : Nat) (old : UInt8)
          (later : k + 1 ≤ i) (there : frame[i]? = some old) :=
        Pad.showsPixel_write_other (k := k) (by omega)
          (older frame kept i old (by omega) there) (pixel != 0)
      obtain ⟨calls, pad, done, replayed, redrawn⟩ :=
        @ih (k + 1) (stage.call (.padWritten (k / panel.width + 1) (k % panel.width * panel.scale)
          (pixelText panel.scale) (pixel != 0))) rows columns (by omega) reaches' older'
      refine ⟨_ :: calls, pad, ?_, replayed, redrawn.write wide stretched rows columns (by omega)⟩
      rw [changes_cons_different wide different, done]
    · obtain ⟨calls, pad, done, replayed, redrawn⟩ :=
        ih rows columns (by omega) reaches' fun frame kept i old later there =>
          older frame kept i old (by omega) there
      refine ⟨calls, pad, ?_, replayed, redrawn.skip ?_⟩
      · rw [changes_cons_same same, done]
      · exact older frame kept k pixel (Nat.le_refl k) here

/-- A terminal after some exchanges, beside what their calls made: the pad shows the frame that the
terminal keeps and the title, and it is what there is to be seen unless the terminal knows that it
has to write or copy it. -/
structure Staged (scale : Int) (past : List Exchange) (terminal : Terminal) (stage : Stage) :
    Prop where
  stretch : terminal.panel.scale = scale
  extent : Exchange.extent past = (terminal.panel.width, terminal.panel.height)
  sized : 1 ≤ terminal.panel.width ∧ 1 ≤ terminal.panel.height ∨
    terminal.panel.width = 0 ∧ terminal.panel.height = 0 ∧
      terminal.changed = false ∧ stage.pad.cells = fun _ _ => Cell.blank
  rows : stage.pad.rows = terminal.panel.height + 2
  columns : stage.pad.columns = terminal.panel.width * scale + 1
  refreshed : stage.cleared = false
  size : ∀ size, Exchange.lastSize past = some size → terminal.size = size
  last : ∀ frame, terminal.last = some frame →
    (frame.size : Int) = terminal.panel.width * terminal.panel.height ∧
      ∀ (i : Nat) pixel, frame[i]? = some pixel →
        stage.pad.ShowsPixel terminal.panel.width scale i pixel
  title : ∀ text, Exchange.titleSince scale past = some text →
    stage.pad.ShowsTitle terminal.panel.width scale text
  copied : terminal.changed = false → stage.shown = stage.pad.cells ∨
    terminal.last = none ∧ 0 < terminal.panel.width * terminal.panel.height

variable {scale : Int} {past : List Exchange} {terminal : Terminal} {stage : Stage}
  {frame : Array UInt8} {size : Int × Int}

theorem staged_new (cursorMode : Option (Given Int)) (scale : Int) (stage : Stage) :
    Staged scale [] (new cursorMode scale) (stage.replay (openingCalls cursorMode scale)) where
  stretch := rfl
  extent := rfl
  sized := .inr ⟨rfl, rfl, rfl, rfl⟩
  rows := rfl
  columns := rfl
  refreshed := rfl
  size _ seen := by cases seen
  last _ kept := by cases kept
  title _ set := by cases set
  copied _ := .inl rfl

theorem Staged.setResolution (staged : Staged scale past terminal stage) {width height : Int}
    (positive : 1 ≤ width ∧ 1 ≤ height) :
    Staged scale ((terminal.setResolution width height).exchange (.resolution width height) :: past)
      (terminal.setResolution width height).device
      (stage.replay (terminal.setResolution width height).calls) where
  stretch := staged.stretch
  extent := rfl
  sized := .inl positive
  rows := rfl
  columns := by
    change width * terminal.panel.scale + 1 = width * scale + 1
    rw [staged.stretch]
  refreshed := staged.refreshed
  size := staged.size
  last _ kept := by cases kept
  title _ set := by cases set
  copied _ := .inr ⟨rfl, Int.mul_pos (show 0 < width by omega) (show 0 < height by omega)⟩

theorem Staged.columns_eq (staged : Staged scale past terminal stage) :
    terminal.columns = terminal.panel.width * scale :=
  congrArg (terminal.panel.width * ·) staged.stretch

theorem Staged.titled (staged : Staged scale past terminal stage) {text : String}
    (short : text.length < terminal.columns) {exchange : Exchange}
    (titled : Exchange.titleSince scale (exchange :: past) = some text)
    (extent : Exchange.extent (exchange :: past) = Exchange.extent past)
    (size : Exchange.lastSize (exchange :: past) = Exchange.lastSize past) :
    Staged scale (exchange :: past)
      { terminal with panel := terminal.panel.titled text, changed := true }
      (stage.call (.padWritten 0 0 (filled text terminal.columns) true)) := by
  rw [staged.columns_eq] at short ⊢
  have wide : 1 ≤ terminal.panel.width ∧ 1 ≤ terminal.panel.height := by
    rcases staged.sized with positive | ⟨narrow, -⟩
    · exact positive
    · rw [narrow] at short
      omega
  refine { staged with
    extent := extent.trans staged.extent
    size := fun seen last => staged.size seen (size.symm.trans last)
    sized := .inl wide
    last := ?_
    title := ?_
    copied := nofun }
  · intro frame kept
    obtain ⟨area, shown⟩ := staged.last frame kept
    exact ⟨area, fun i pixel here =>
      Pad.showsPixel_write_title (by omega) (shown i pixel here) 0 true⟩
  · intro written set
    cases titled.symm.trans set
    exact Pad.showsTitle_write (by omega) staged.rows staged.columns short

theorem Staged.setTitle (staged : Staged scale past terminal stage) (room : Room)
    (text : String) :
    Staged scale ((terminal.setTitle room text).exchange (.title text) :: past)
      (terminal.setTitle room text).device (stage.replay (terminal.setTitle room text).calls) := by
  have columns : (Exchange.extent past).1 * scale = terminal.columns := by
    rw [staged.extent, staged.columns_eq]
  unfold Terminal.setTitle
  dsimp only
  split
  next long =>
    have longer : ¬(text.length : Int) < (Exchange.extent past).1 * scale := by omega
    exact { staged with
      title := fun written set => staged.title written ((if_neg longer).symm.trans set) }
  next short =>
    split
    next => exact { staged with }
    next =>
      split
      next => exact { staged with }
      next =>
        have shorter : (text.length : Int) < (Exchange.extent past).1 * scale := by omega
        exact staged.titled (by omega) (if_pos shorter) rfl rfl

theorem Staged.fitting (staged : Staged scale past terminal stage)
    (fitting : Request.Fits past (.frame frame size)) :
    (frame.size : Int) = terminal.panel.width * terminal.panel.height := by
  have all : (frame.size : Int) = (Exchange.extent past).1 * (Exchange.extent past).2 := fitting
  rwa [staged.extent] at all

theorem toList_of_narrow {width height : Int} (pixels : (frame.size : Int) = width * height)
    (narrow : width = 0) : frame.toList = [] := by
  rw [narrow, Int.zero_mul] at pixels
  refine List.eq_nil_of_length_eq_zero ?_
  rw [Array.length_toList]
  omega

theorem Staged.redrawn (staged : Staged scale past terminal stage) (stretched : 1 ≤ scale)
    (pixels : (frame.size : Int) = terminal.panel.width * terminal.panel.height) :
    ∃ calls pad,
      changes terminal.panel (pixelText terminal.panel.scale) terminal.last 0 frame.toList =
        (calls, none) ∧
      stage.replay calls = { stage with pad } ∧
      Pad.Redrawn terminal.panel.width scale 0 frame.toList stage.pad pad := by
  rcases staged.sized with ⟨wide, -⟩ | ⟨narrow, -⟩
  · have inside : ((0 : Nat) : Int) + frame.toList.length ≤
        terminal.panel.width * terminal.panel.height := by
      rw [Array.length_toList]
      omega
    have reaches (old : Array UInt8) (kept : terminal.last = some old) :
        0 + frame.toList.length ≤ old.size := by
      have same := (staged.last old kept).1
      rw [Array.length_toList]
      omega
    have older (old : Array UInt8) (kept : terminal.last = some old) (i : Nat) (pixel : UInt8)
        (_ : 0 ≤ i) (here : old[i]? = some pixel) := (staged.last old kept).2 i pixel here
    have columns := staged.columns
    rw [← staged.stretch] at stretched older columns ⊢
    exact redrawn_changes wide stretched staged.rows columns inside reaches older
  · rw [toList_of_narrow pixels narrow]
    exact ⟨[], stage.pad, rfl, rfl, .nothing⟩

theorem Staged.copied_of_same (staged : Staged scale past terminal stage) {text : String}
    (pixels : (frame.size : Int) = terminal.panel.width * terminal.panel.height)
    (unchanged : terminal.changed = false)
    (same : changes terminal.panel text terminal.last 0 frame.toList = ([], none)) :
    stage.shown = stage.pad.cells := by
  -- If no frame is kept then every pixel is written, so there would have been calls.
  rcases staged.copied unchanged with copied | ⟨fresh, written⟩
  · exact copied
  · rcases staged.sized with ⟨wide, -⟩ | ⟨narrow, -⟩
    · have all : ([] : List HostCall).length = frame.toList.length := by
        rw [← changes_of_none wide, ← fresh, same]
      rw [List.length_nil, Array.length_toList] at all
      omega
    · rw [narrow, Int.zero_mul] at written
      omega

theorem Staged.write (staged : Staged scale past terminal stage) (stretched : 1 ≤ scale)
    (fitting : Request.Fits past (.frame frame size)) :
    ∃ calls pad,
      terminal.write frame =
        { device :=
            { terminal with last := some frame, changed := terminal.changed || !calls.isEmpty }
          calls } ∧
      stage.replay calls = { stage with pad } ∧
      Staged scale past (terminal.write frame).device { stage with pad } := by
  have pixels := staged.fitting fitting
  obtain ⟨calls, pad, done, replayed, redrawn⟩ := staged.redrawn stretched pixels
  unfold Terminal.write
  dsimp only
  rw [done]
  refine ⟨calls, pad, rfl, replayed, { staged with
    sized := ?_
    rows := redrawn.rows.trans staged.rows
    columns := redrawn.columns.trans staged.columns
    last := ?_
    title := ?_
    copied := ?_ }⟩
  · rcases staged.sized with positive | ⟨narrow, low, unchanged, bare⟩
    · exact .inl positive
    · rw [toList_of_narrow pixels narrow] at done
      cases done
      obtain rfl : stage.pad = pad := congrArg Stage.pad replayed
      exact .inr ⟨narrow, low, by rw [unchanged]; rfl, bare⟩
  · rintro _ ⟨⟩
    refine ⟨pixels, fun i pixel here => ?_⟩
    have shown := redrawn.pixels i pixel (by rwa [Array.getElem?_toList])
    rwa [Nat.zero_add] at shown
  · intro text set c low high
    exact (redrawn.title c).trans (staged.title text set c low high)
  · intro still
    obtain ⟨unchanged, quiet⟩ := Bool.or_eq_false_iff.1 still
    obtain rfl : calls = [] := by simpa using quiet
    obtain rfl : stage.pad = pad := congrArg Stage.pad replayed
    exact .inl (staged.copied_of_same pixels unchanged done)

theorem write_same (kept : terminal.last = some frame) :
    terminal.write frame = { device := terminal } := by
  have nothing : changes terminal.panel (pixelText terminal.panel.scale) terminal.last 0
      frame.toList = ([], none) := by
    rw [kept]
    exact changes_of_self rfl
  unfold Terminal.write
  dsimp only
  rw [nothing, ← kept]
  dsimp only
  rw [List.isEmpty_nil, Bool.not_true, Bool.or_false]

theorem settle_same (unchanged : terminal.changed = false) (resizes : Bool) :
    terminal.settle terminal.size resizes = { device := terminal } := by
  unfold Terminal.settle
  rw [if_pos rfl, unchanged, if_neg Bool.false_ne_true]

theorem Staged.settle_same (staged : Staged scale past terminal stage)
    (kept : terminal.last = some frame) (resizes : Bool) :
    ∃ calls, terminal.settle terminal.size resizes =
        { device := { terminal with changed := false }, calls } ∧
      stage.replay calls = { stage with shown := stage.pad.cells } := by
  cases changed : terminal.changed with
  | false =>
    have copied : stage.shown = stage.pad.cells := by
      rcases staged.copied changed with copied | ⟨fresh, -⟩
      · exact copied
      · cases kept.symm.trans fresh
    refine ⟨[], ?_, ?_⟩
    · rw [Terminal.settle_same changed, ← changed]
    · rw [← copied]
      rfl
  | true => exact ⟨_, (if_pos rfl).trans (if_pos changed), rfl⟩

theorem Staged.settle_moved (staged : Staged scale past terminal stage)
    (moved : size ≠ terminal.size) (resizes : Bool) :
    ∃ calls, terminal.settle size resizes =
        { device := { terminal with size, last := none }, calls } ∧
      stage.replay calls = { stage with shown := fun _ _ => Cell.blank } := by
  refine ⟨_, if_neg moved, ?_⟩
  rw [staged.refreshed]
  cases resizes <;> rfl

theorem Staged.present (staged : Staged scale past terminal stage) (stretched : 1 ≤ scale)
    (fitting : Request.Fits past (.frame frame size)) (resizes : Bool) :
    ∃ pad shown,
      (terminal.present frame size resizes).fault = none ∧
      stage.replay (terminal.present frame size resizes).calls = { stage with pad, shown } ∧
      (∀ (i : Nat) pixel, frame[i]? = some pixel →
        pad.ShowsPixel terminal.panel.width scale i pixel) ∧
      (size = terminal.size → shown = pad.cells ∧
        (terminal.present frame size resizes).device.changed = false ∧
        (terminal.present frame size resizes).device.last = some frame) ∧
      Staged scale ((terminal.present frame size resizes).exchange (.frame frame size) :: past)
        (terminal.present frame size resizes).device { stage with pad, shown } := by
  obtain ⟨calls, pad, written, replayed, drawn⟩ := staged.write stretched fitting
  unfold Terminal.present
  rw [written] at drawn ⊢
  have shows := (drawn.last frame rfl).2
  by_cases same : size = terminal.size
  · subst same
    obtain ⟨calls', settled, copied⟩ := drawn.settle_same rfl resizes
    dsimp only at settled ⊢
    rw [settled]
    have sized := drawn.sized
    refine ⟨pad, pad.cells, rfl, ?_, shows, fun _ => ⟨rfl, rfl, rfl⟩, { drawn with
      sized := ?_
      size := ?_
      copied := fun _ => .inl rfl }⟩
    · rw [Stage.replay_append, replayed, copied]
    · rcases drawn.sized with positive | ⟨narrow, low, -, bare⟩
      · exact .inl positive
      · exact .inr ⟨narrow, low, rfl, bare⟩
    · rintro _ ⟨⟩
      rfl
  -- The pad has the frame, but the terminal is blank; so the frame is not kept, and all of the
  -- next one is written, which has the pad copied.
  · obtain ⟨calls', settled, cleared⟩ := drawn.settle_moved same resizes
    dsimp only at settled ⊢
    rw [settled]
    refine ⟨pad, fun _ _ => Cell.blank, rfl, ?_, shows, fun still => absurd still same, { drawn with
      size := ?_
      last := nofun
      copied := ?_ }⟩
    · rw [Stage.replay_append, replayed, cleared]
    · rintro _ ⟨⟩
      rfl
    · intro _
      rcases drawn.sized with ⟨wide, tall⟩ | ⟨-, -, -, bare⟩
      · exact .inr ⟨rfl, Int.mul_pos wide tall⟩
      · exact .inl bare.symm

variable {cursorMode : Option (Given Int)} {room : Room} {resizes : Bool}

theorem staged_of_conversation (start : Stage) (stretched : 1 ≤ scale)
    (conversation : Conversation (answer room resizes) (new cursorMode scale) past terminal) :
    Staged scale past terminal ((start.replay (openingCalls cursorMode scale)).after past) := by
  induction conversation with
  | opened => exact staged_new cursorMode scale start
  | @asked past terminal before request fitting ih =>
    cases request with
    | resolution width height => exact ih.setResolution fitting
    | title text => exact ih.setTitle room text
    | frame pixels size =>
      obtain ⟨pad, shown, -, replayed, -, -, staged⟩ := ih.present stretched fitting resizes
      have after := staged
      rw [← replayed] at after
      exact after

theorem calls_present_same (kept : terminal.last = some frame)
    (unchanged : terminal.changed = false) (resizes : Bool) :
    (terminal.present frame terminal.size resizes).calls = [] := by
  unfold Terminal.present
  rw [write_same kept]
  dsimp only
  rw [settle_same unchanged, List.append_nil]

theorem calls_present_again {exchange : Exchange} (stretched : 1 ≤ scale)
    (conversation :
      Conversation (answer room resizes) (new cursorMode scale) (exchange :: past) terminal)
    (shown : exchange.request = .frame frame size)
    (same : Exchange.lastSize past = some size) :
    (terminal.present frame size resizes).calls = [] := by
  cases conversation with
  | @asked _ before earlier request fitting =>
    obtain rfl : request = .frame frame size := shown
    have staged := staged_of_conversation Stage.blank stretched earlier
    obtain ⟨pad, shown, complete, -, -, still, after⟩ := staged.present stretched fitting resizes
    obtain ⟨-, unchanged, kept⟩ := still (staged.size size same).symm
    have size' := after.size size (Exchange.lastSize_of_shown complete)
    have quiet := calls_present_same kept unchanged resizes
    rwa [size'] at quiet

/-- A frame that fits is shown whatever came before it. The pad has its pixels and the last title
that was short enough; it is what there is to be seen if the terminal has kept its size, and the
frame takes no call if it was shown just before, when the terminal had kept its size too. -/
theorem conversation_shows_frames (start : Stage) (stretched : 1 ≤ scale)
    (conversation : Conversation (answer room resizes) (new cursorMode scale) past terminal)
    (fitting : Request.Fits past (.frame frame size)) :
    let opened := start.replay (openingCalls cursorMode scale)
    let response := terminal.present frame size resizes
    let stage := (opened.after past).replay response.calls
    let (width, height) := Exchange.extent past
    response.fault = none ∧
    stage.pad.ShowsFrame width height scale frame ∧
    (∀ text, Exchange.titleSince scale past = some text →
      stage.pad.ShowsTitle width scale text) ∧
    (Exchange.lastSize past = some size → stage.shown = stage.pad.cells) ∧
    ∀ exchange earlier, past = exchange :: earlier → exchange.request = .frame frame size →
      Exchange.lastSize earlier = some size → response.calls = [] := by
  have staged := staged_of_conversation start stretched conversation
  obtain ⟨pad, shown, complete, replayed, shows, still, after⟩ :=
    staged.present stretched fitting resizes
  rw [staged.extent]
  dsimp only
  rw [replayed]
  refine ⟨complete, ?_, ?_, ?_, ?_⟩
  · exact Pad.showsFrame_of_pixels (staged.fitting fitting) shows
  · intro text set
    have width := congrArg Prod.fst (after.extent.symm.trans staged.extent)
    have title := after.title text set
    dsimp only at width title
    rwa [width] at title
  · exact fun same => (still (staged.size size same).symm).1
  · rintro exchange earlier rfl again same
    exact calls_present_again stretched conversation again same

theorem conversation_shows_frames_thrice :
    ∃ past terminal,
      Conversation (answer (· ≤ 100) true) (new (some (.value 0)) 2) past terminal ∧
      (1 : Int) ≤ 2 ∧ Request.Fits past (.frame #[1, 0] (24, 80)) ∧
      let response := terminal.present #[1, 0] (24, 80) true
      let opened := Stage.blank.replay (openingCalls (some (.value 0)) 2)
      let stage := (opened.after past).replay response.calls
      (stage.shown 1 1 = ⟨' ', true⟩ ∧ stage.shown 1 2 = ⟨' ', false⟩) ∧
      (stage.shown 0 1 = ⟨'i', true⟩ ∧ stage.shown 0 3 = ⟨' ', true⟩) ∧
      response.fault = none ∧ response.calls = [] := by
  have start : Conversation (answer (· ≤ 100) true) (new (some (.value 0)) 2) [] _ := .opened
  have sized := start.asked (.resolution 2 1) ⟨by decide, by decide⟩
  have titled := sized.asked (.title "Hi") trivial
  have shown := titled.asked (.frame #[1, 0] (24, 80)) rfl
  have again := shown.asked (.frame #[1, 0] (24, 80)) rfl
  obtain ⟨complete, frame, title, copied, quiet⟩ := conversation_shows_frames Stage.blank
    (by decide) again (show Request.Fits _ (.frame #[1, 0] (24, 80)) from rfl)
  have seen := copied rfl
  have name := title "Hi" rfl
  refine ⟨_, _, again, by decide, rfl, ⟨?_, ?_⟩, ⟨?_, ?_⟩, complete, quiet _ _ rfl rfl rfl⟩
  · rw [seen]
    exact frame 0 0 1 (by decide) (by decide) (by decide) (by decide) (by decide) (by decide)
  · rw [seen]
    exact frame 1 0 0 (by decide) (by decide) (by decide) (by decide) (by decide) (by decide)
  · rw [seen]
    exact name 1 (by decide) (by decide)
  · rw [seen]
    exact name 3 (by decide) (by decide)

end Terminal

end Chip8
