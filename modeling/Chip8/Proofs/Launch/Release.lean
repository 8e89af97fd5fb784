import Chip8.Folder
import Chip8.Proofs.Launch.Launched

namespace Chip8

namespace Launch

/-- The calls that take something of the host and give it back, in the order in which they have to
be made: first for the window, then for the mixer, then for the terminal. -/
def loans : List (List HostCall) :=
  [[.windowOpened, .windowClosed],
    [.mixerOpened, .mixerClosed],
    [.terminalOpened, .echoOff, .cbreakOn, .cbreakOff, .echoOn, .terminalClosed]]

/-- Whatever was taken was taken once and given back once. -/
def Released (calls : List HostCall) : Prop :=
  ∀ loan ∈ loans, calls.filter (· ∈ loan) = [] ∨ calls.filter (· ∈ loan) = loan

instance (calls : List HostCall) : Decidable (Released calls) :=
  inferInstanceAs (Decidable (∀ loan ∈ loans, _ ∨ _))

theorem deals_of_loan : ∀ loan ∈ loans, ∀ call ∈ loan, call.deals = true := by
  decide

theorem released_dealings (calls : List HostCall) : Released (dealings calls) ↔ Released calls := by
  unfold Released
  refine forall₂_congr fun loan member => ?_
  rw [filter_dealings (deals_of_loan loan member)]

theorem released_nil : Released [] := by
  decide

theorem released_devices (kind : Kind) (speaker : Speaker.Kind) :
    Released (takes kind ++ takesSound speaker ++
      (givesSound speaker ++ ends kind ++ gives kind)) := by
  cases kind <;> cases speaker <;> decide

theorem released_display (display : Kind) : Released (takes display ++ gives display) := by
  cases display <;> decide

/-- What a launch can leave taken: a window whose width or palette is refused, a terminal whose
cursor has a mode that is no number of 32 bits, and a mixer if there is no memory for the picture of
its window. -/
inductive Leaks (around : Surroundings) (arguments : Arguments) : List HostCall → Prop where
  | window {chosen : Plan} {opening : Opening} {fault : Fault}
      (planned : plan around arguments = .ok chosen)
      (selected : Launch.opening arguments chosen.kind = .ok opening)
      (shows : opening.kind = .window) (refused : opening.display around.script = .error fault) :
      Leaks around arguments [.windowOpened]
  | terminal {chosen : Plan} {opening : Opening} {scale : Int}
      (planned : plan around arguments = .ok chosen)
      (selected : Launch.opening arguments chosen.kind = .ok opening)
      (shows : opening.kind = .terminal)
      (sized : Terminal.pixelWidth around.script.room opening.scaleGiven = .ok scale)
      (checked : around.script.checksCursor = true)
      (refused : ∀ mode, opening.cursorMode = some (.value mode) →
        mode < -2147483648 ∨ 2147483647 < mode) :
      Leaks around arguments [.terminalOpened]
  | mixer {chosen : Plan} {opening : Opening} {display : Display} {keymap : Keymap}
      (planned : plan around arguments = .ok chosen)
      (selected : Launch.opening arguments chosen.kind = .ok opening)
      (shows : opening.kind = .window) (opened : opening.display around.script = .ok display)
      (parsed : keymapGiven arguments = .ok keymap) (sounds : chosen.mute ≠ some true)
      (crowded : hasRoom around.script.room (64 * 32 * 3) = false) :
      Leaks around arguments [.windowOpened, .mixerOpened, .windowClosed]

variable {around : Surroundings} {arguments : Arguments} {left : List HostCall}
variable {chosen : Plan} {opening : Opening} {display : Display} {fault : Fault}

theorem not_released_of_leaks (leaks : Leaks around arguments left) : ¬ Released left := by
  cases leaks <;> decide

theorem cursorFault_eq_none_iff {script : Script} :
    opening.cursorFault script = none ↔ script.checksCursor = true →
      ∃ mode, opening.cursorMode = some (.value mode) ∧ -2147483648 ≤ mode ∧ mode ≤ 2147483647 := by
  unfold Opening.cursorFault
  cases script.checksCursor with
  | false => simp
  | true =>
    unfold Terminal.cursorFault
    match opening.cursorMode with
    | none => simp
    | some .blank => simp
    | some (.value mode) => simp

theorem launch_of_spoilt (planned : plan around arguments = .ok chosen)
    (selected : Launch.opening arguments chosen.kind = .ok opening)
    (failed : opening.display around.script = .error fault) :
    dealings (launch around arguments).world.calls.toList =
      dealings (opening.calls around.script) := by
  unfold launch prepare
  rw [planned]
  dsimp only
  rw [selected]
  dsimp only
  rw [openDisplay_of_error (World.bare around.clock around.script none) failed]
  exact World.dealings_record _ _

theorem dealings_window {script : Script} (shows : opening.kind = .window) :
    dealings (opening.calls script) = [.windowOpened] := by
  unfold Opening.calls Window.openingCalls
  rw [shows]
  cases Window.width opening.scaleGiven <;> rfl

theorem dealings_terminal {script : Script} (shows : opening.kind = .terminal)
    (refused : opening.display script = .error fault) :
    dealings (opening.calls script) =
      match Terminal.pixelWidth script.room opening.scaleGiven with
      | .ok _ => [.terminalOpened]
      | .error _ => [] := by
  unfold Opening.display at refused
  unfold Opening.calls
  rw [shows] at refused ⊢
  dsimp only at refused ⊢
  cases sized : Terminal.pixelWidth script.room opening.scaleGiven with
  | error cause => rfl
  | ok scale =>
    rw [sized] at refused
    cases mode : opening.cursorFault script with
    | some cause => rfl
    | none =>
      rw [mode] at refused
      cases refused

theorem display_of_refused {script : Script} {scale : Int} (shows : opening.kind = .terminal)
    (sized : Terminal.pixelWidth script.room opening.scaleGiven = .ok scale)
    (refused : opening.cursorFault script = some fault) :
    opening.display script = .error fault := by
  unfold Opening.display
  rw [shows]
  dsimp only
  rw [sized, refused]
  rfl

theorem dealings_unassembled {next : World}
    (opened : opening.display around.script = .ok display)
    (late : arguments.debug.isSome ∧ arguments.stepsPerFrame.isSome ∧ arguments.strict.isSome)
    (failed : assemble around.noise arguments chosen opening.kind
      (openedWorld around opening display) = .error fault next) :
    (dealings (closeDisplay next).calls.toList = takes opening.kind ++ gives opening.kind ∧
        ((∀ keymap, keymapGiven arguments ≠ .ok keymap) ∨ ¬ Reads around.script opening.kind)) ∨
      (dealings (closeDisplay next).calls.toList = takes opening.kind ++
          takesSound (speakerKind opening.kind chosen.mute) ++ gives opening.kind ∧
        ¬ display.Settles around.script.room ∧
        ∃ keymap, keymapGiven arguments = .ok keymap) := by
  obtain ⟨dealt, shows, -⟩ := dealings_opening opened
  have taken : dealings (openedWorld around opening display).calls.toList = takes opening.kind :=
    (World.dealings_record _ _).trans dealt
  rw [dealings_closeDisplay]
  rcases stages_of_assemble_error late failed with ⟨missing, rfl⟩ | keyed |
    ⟨typed, sounding, keymap, parsed, keyed, voiced, shown⟩
  · rw [taken]
    refine .inl ⟨congrArg (takes opening.kind ++ gives ·) shows, .inl fun keymap parsed => ?_⟩
    cases parsed.symm.trans missing
  · have kept := tenure_openKeyboard (unread_openedWorld around opening display) opening.kind
    rw [stateAfter_of_error keyed] at kept
    have kind : next.display.kind = opening.kind := (congrArg Tenure.display kept).trans shows
    have dealt : dealings next.calls.toList = takes opening.kind :=
      (congrArg Tenure.dealings kept).trans taken
    rw [dealt, kind]
    refine .inl ⟨rfl, .inr fun reads => ?_⟩
    obtain ⟨typed, read⟩ :=
      (openKeyboard_eq_ok_iff (openedWorld around opening display)).2 reads
    cases read.symm.trans keyed
  · have kept := tenure_of_stages (unread_openedWorld around opening display) keyed voiced
    rw [stateAfter_of_error shown] at kept
    have kind : next.display.kind = opening.kind := (congrArg Tenure.display kept).trans shows
    have dealt : dealings next.calls.toList =
        takes opening.kind ++ takesSound (speakerKind opening.kind chosen.mute) :=
      (congrArg Tenure.dealings kept).trans (congrArg (· ++ takesSound _) taken)
    rw [dealt, kind]
    refine .inr ⟨rfl, fun settles => ?_, keymap, parsed⟩
    obtain ⟨attached, set⟩ :=
      World.attach_eq_ok_iff.2 ((settles_of_stages keyed voiced).2 settles)
    cases set.symm.trans shown

theorem settles_window {room : Room} (shows : display.kind = .window) :
    display.Settles room ↔ hasRoom room (64 * 32 * 3) = true := by
  cases display with
  | window window => exact Iff.rfl
  | bare panel => cases shows
  | terminal terminal => cases shows

theorem launch_of_unassembled {next : World} (planned : plan around arguments = .ok chosen)
    (selected : Launch.opening arguments chosen.kind = .ok opening)
    (opened : opening.display around.script = .ok display)
    (failed : assemble around.noise arguments chosen opening.kind
      (openedWorld around opening display) = .error fault next) :
    launch around arguments = endedEarly fault (closeDisplay next) := by
  unfold launch
  rw [prepare_of_opened planned selected opened, failed]

theorem dealings_of_leaks (leaks : Leaks around arguments left)
    (late : arguments.debug.isSome ∧ arguments.stepsPerFrame.isSome ∧ arguments.strict.isSome) :
    dealings (launch around arguments).world.calls.toList = left := by
  cases leaks with
  | window planned selected shows refused =>
    rw [launch_of_spoilt planned selected refused]
    exact dealings_window shows
  | @terminal chosen opening scale planned selected shows sized checked refused =>
    cases mode : opening.cursorFault around.script with
    | none =>
      obtain ⟨mode, asked, low, high⟩ := cursorFault_eq_none_iff.1 mode checked
      have outside := refused mode asked
      omega
    | some fault =>
      have failed := display_of_refused shows sized mode
      rw [launch_of_spoilt planned selected failed, dealings_terminal shows failed, sized]
  | @mixer chosen opening display keymap planned selected shows opened parsed sounds crowded =>
    have kind : display.kind = .window := (dealings_opening opened).2.1.trans shows
    cases made : assemble around.noise arguments chosen opening.kind
        (openedWorld around opening display) with
    | ok m next =>
      have settles := ((assemble_eq_ok_iff around.noise chosen _ _ late).1 ⟨m, next, made⟩).2.2
      cases crowded.symm.trans ((settles_window kind).1 settles)
    | error fault next =>
      rw [launch_of_unassembled planned selected opened made]
      rcases dealings_unassembled opened late made with ⟨-, missing | unread⟩ | ⟨dealt, -, -⟩
      · exact absurd parsed (missing keymap)
      · exact absurd (shows ▸ trivial) unread
      · refine dealt.trans ?_
        rw [shows]
        unfold speakerKind
        dsimp only
        rw [if_neg sounds]
        rfl

theorem released_of_ready {program : Array UInt8} {m : Machine} {world last : World}
    (prepares : prepare around arguments = .ok (program, m, world))
    (kept : last.tenure = world.tenure) : Released (closeAll last).calls.toList := by
  obtain ⟨chosen, opening, display, -, -, -, -, tenure, -⟩ := ready prepares
  refine (released_dealings _).1 ?_
  rw [dealings_of_held (kept.trans tenure)]
  exact released_devices _ _

theorem released_or_leaks_terminal (planned : plan around arguments = .ok chosen)
    (selected : Launch.opening arguments chosen.kind = .ok opening)
    (shows : opening.kind = .terminal) (refused : opening.display around.script = .error fault) :
    Released (opening.calls around.script) ∨ Leaks around arguments [.terminalOpened] := by
  have dealt := dealings_terminal shows refused
  cases sized : Terminal.pixelWidth around.script.room opening.scaleGiven with
  | error cause =>
    rw [sized] at dealt
    refine .inl ((released_dealings _).1 ?_)
    rw [dealt]
    exact released_nil
  | ok scale =>
    right
    have spoilt : ¬ opening.cursorFault around.script = none := by
      intro fine
      unfold Opening.display at refused
      rw [shows] at refused
      dsimp only at refused
      rw [sized, fine] at refused
      cases refused
    rw [cursorFault_eq_none_iff] at spoilt
    obtain ⟨checked, missing⟩ := Classical.not_imp.1 spoilt
    refine .terminal planned selected shows sized checked fun mode asked => ?_
    rcases Int.lt_or_le mode (-2147483648) with low | inside
    · exact .inl low
    · exact .inr (Int.not_le.1 fun high => missing ⟨mode, asked, inside, high⟩)

theorem released_or_leaks_mixer {keymap : Keymap} (planned : plan around arguments = .ok chosen)
    (selected : Launch.opening arguments chosen.kind = .ok opening)
    (opened : opening.display around.script = .ok display)
    (parsed : keymapGiven arguments = .ok keymap) (crowded : ¬ display.Settles around.script.room) :
    takesSound (speakerKind opening.kind chosen.mute) = [] ∨
      Leaks around arguments [.windowOpened, .mixerOpened, .windowClosed] := by
  have kind := (dealings_opening opened).2.1
  cases shows : opening.kind with
  | bare => exact .inl rfl
  | terminal =>
    left
    unfold speakerKind
    dsimp only
    split <;> rfl
  | window =>
    by_cases mute : chosen.mute = some true
    · left
      unfold speakerKind
      dsimp only
      rw [if_pos mute]
      rfl
    · have unroomy := mt (settles_window (kind.trans shows)).2 crowded
      exact .inr (.mixer planned selected shows opened parsed mute (Bool.eq_false_iff.2 unroomy))

theorem Launched.released {report : Report} (launched : Launched around arguments report)
    (late : arguments.debug.isSome ∧ arguments.stepsPerFrame.isSome ∧ arguments.strict.isSome) :
    (∃ left, Leaks around arguments left) ∨ Released report.world.calls.toList := by
  cases launched with
  | unplanned failed => exact .inr released_nil
  | unopened planned failed => exact .inr released_nil
  | @spoilt chosen opening fault planned selected failed =>
    have made : ((World.bare around.clock around.script none).record
        (opening.calls around.script)).calls.toList = opening.calls around.script := by
      simp [World.record, World.bare]
    cases shows : opening.kind with
    | bare =>
      unfold Opening.display at failed
      rw [shows] at failed
      cases given : opening.scaleGiven <;> rw [given] at failed <;> cases failed
    | window => exact .inl ⟨_, .window planned selected shows failed⟩
    | terminal =>
      rcases released_or_leaks_terminal planned selected shows failed with released | leaks
      · right
        change Released ((World.bare around.clock around.script none).record
          (opening.calls around.script)).calls.toList
        rw [made]
        exact released
      · exact .inl ⟨_, leaks⟩
  | @unassembled chosen opening display fault world planned selected opened failed =>
    have closed (taken : dealings (closeDisplay world).calls.toList =
        takes opening.kind ++ gives opening.kind) :
        Released (closeDisplay world).calls.toList := by
      rw [← released_dealings, taken]
      exact released_display opening.kind
    rcases dealings_unassembled opened late failed with ⟨dealt, -⟩ |
      ⟨dealt, crowded, keymap, parsed⟩
    · exact .inr (closed dealt)
    · rcases released_or_leaks_mixer planned selected opened parsed crowded with silent | leaks
      · rw [silent, List.append_nil] at dealt
        exact .inr (closed dealt)
      · exact .inl ⟨_, leaks⟩
  | @returned program m stopped world last prepares played =>
    have kept := tenure_play program arguments.countsSteps (m, world)
    rw [stateAfter_of_ok played] at kept
    exact .inr (released_of_ready prepares kept)
  | @halted program m stopped world last fault prepares played =>
    have kept := tenure_play program arguments.countsSteps (m, world)
    rw [stateAfter_of_error played] at kept
    exact .inr (released_of_ready prepares kept)

/-- However a launch ends that finds all its late arguments, it has given back in order all that it
took of its host, unless it is one that leaks; then it has taken and given back just that. -/
theorem launch_releases (around : Surroundings) (arguments : Arguments)
    (late : arguments.debug.isSome ∧ arguments.stepsPerFrame.isSome ∧ arguments.strict.isSome) :
    let calls := (launch around arguments).world.calls.toList
    (Released calls ↔ ∀ left, ¬ Leaks around arguments left) ∧
      ∀ left, Leaks around arguments left → dealings calls = left := by
  intro calls
  have known (left : List HostCall) (leaks : Leaks around arguments left) :
      dealings calls = left := dealings_of_leaks leaks late
  refine ⟨⟨fun released left leaks => ?_, fun sound => ?_⟩, known⟩
  · rw [← released_dealings, known left leaks] at released
    exact not_released_of_leaks leaks released
  · rcases (launched around arguments).released late with ⟨left, leaks⟩ | released
    · exact absurd leaks (sound left)
    · exact released

def workbench : Surroundings where
  read := (Folder.ofList [("rom.ch8", .file #[0x12, 0x00])]).read
  noise := Noise.cycle #[0]
  windows := true
  terminals := true
  clock := Clock.startingAt 0 #[] Clock.standardLimit
  script := {}

def intoWindow (palette keymap : String) : Arguments where
  filename := some (some "rom.ch8")
  stepsPerFrame := some none
  renderer := some (some (.value "pygame"))
  scale := some none
  mute := some none
  keymap := some (some (.value keymap))
  cursorMode := some (some (.value 0))
  palette := some (some (.value palette))
  shift := some none
  load := some none
  logic := some none
  strict := some false
  debug := some false

def intoTerminal (cursorMode : Option (Given Int)) : Arguments :=
  { intoWindow "000000" Keymap.standard with
    renderer := some (some (.value "curses"))
    cursorMode := some cursorMode }

theorem launch_releases_fewKeys :
    (launch workbench (intoWindow "000000" "x")).fault = some .keyCount ∧
      .windowOpened ∈ (launch workbench (intoWindow "000000" "x")).world.calls.toList ∧
      Released (launch workbench (intoWindow "000000" "x")).world.calls.toList ∧
      ∀ left, ¬ Leaks workbench (intoWindow "000000" "x") left := by
  have released : Released (launch workbench (intoWindow "000000" "x")).world.calls.toList := by
    decide +kernel
  have general := launch_releases workbench (intoWindow "000000" "x") ⟨rfl, rfl, rfl⟩
  exact ⟨by decide +kernel, by decide +kernel, released, general.1.1 released⟩

/-- A palette that is no number is refused while the window is open, and the window stays open; so
does a terminal whose cursor is given no mode at all. -/
theorem launch_keeps_display :
    (launch workbench (intoWindow "zzzzzz" Keymap.standard)).fault = some .colourDigits ∧
      dealings (launch workbench (intoWindow "zzzzzz" Keymap.standard)).world.calls.toList =
        [.windowOpened] ∧
      ¬ Released (launch workbench (intoWindow "zzzzzz" Keymap.standard)).world.calls.toList ∧
      (launch workbench (intoTerminal none)).fault = some .cursorAbsent ∧
      dealings (launch workbench (intoTerminal none)).world.calls.toList = [.terminalOpened] ∧
      ¬ Released (launch workbench (intoTerminal none)).world.calls.toList := by
  refine ⟨?_, ?_, ?_, ?_, ?_, ?_⟩ <;> decide +kernel

-- Where there is memory for no picture, the window is closed, and the mixer stays open.
example :
    dealings (launch { workbench with script := { room := (· < 6144) } }
      (intoWindow "000000" Keymap.standard)).world.calls.toList =
        [.windowOpened, .mixerOpened, .windowClosed] := by
  decide +kernel

end Launch

end Chip8
