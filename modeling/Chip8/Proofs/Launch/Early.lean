import Chip8.Proofs.Keyboard.Keymap
import Chip8.Proofs.Launch.Launched

namespace Chip8

def HostCall.sounds : HostCall → Bool
  | mixerPrepared _ | mixerOpened | soundMade _ | soundSoftened => true
  | soundStopped | soundPlayed _ | mixerClosed | bellRung => true
  | _ => false

namespace Launch

def readProgram (around : Surroundings) : Option String → Except Fault (Array UInt8)
  | none => .error .nameAbsent
  | some name => around.read name

structure Complete (arguments : Arguments) : Prop where
  filename : arguments.filename.isSome
  stepsPerFrame : arguments.stepsPerFrame.isSome
  renderer : arguments.renderer.isSome
  scale : arguments.scale.isSome
  mute : arguments.mute.isSome
  keymap : arguments.keymap.isSome
  cursorMode : arguments.cursorMode.isSome
  palette : arguments.palette.isSome
  shift : arguments.shift.isSome
  load : arguments.load.isSome
  logic : arguments.logic.isSome
  strict : arguments.strict.isSome
  debug : arguments.debug.isSome

structure Names (around : Surroundings) (arguments : Arguments) (filename : Option String)
    (kind : Kind) : Prop where
  filename : arguments.filename = some filename
  display : ∃ renderer, arguments.renderer = some renderer ∧
    chooseKind around.windows around.terminals renderer = .ok (some kind)

variable {around : Surroundings} {arguments : Arguments} {filename : Option String} {kind : Kind}
variable {fault : Fault} {program : Array UInt8} {opening : Opening} {display : Display}

theorem plan_of_complete (complete : Complete arguments)
    (names : Names around arguments filename kind) :
    ∃ dialect mute, arguments.mute = some mute ∧
      plan around arguments = (readProgram around filename).map fun program =>
        { dialect, kind := some kind, mute, program } := by
  obtain ⟨shift, shifts⟩ := Option.isSome_iff_exists.1 complete.shift
  obtain ⟨load, loads⟩ := Option.isSome_iff_exists.1 complete.load
  obtain ⟨logic, logics⟩ := Option.isSome_iff_exists.1 complete.logic
  obtain ⟨mute, mutes⟩ := Option.isSome_iff_exists.1 complete.mute
  obtain ⟨named, renderer, rendered, chosen⟩ := names
  refine ⟨{
    shiftsSecond := shift.getD false
    movesIndex := load.getD true
    clearsFlag := logic.getD false }, mute, mutes, ?_⟩
  unfold plan
  rw [shifts, loads, logics, mutes, rendered, named]
  dsimp only [required, bind, Except.bind]
  rw [chosen]
  cases filename with
  | none => rfl
  | some name =>
    unfold readProgram
    dsimp only
    cases around.read name <;> rfl

theorem launch_of_unread (complete : Complete arguments)
    (names : Names around arguments filename kind)
    (unread : readProgram around filename = .error fault) :
    launch around arguments = endedEarly fault (World.bare around.clock around.script none) := by
  obtain ⟨dialect, mute, -, planned⟩ := plan_of_complete complete names
  rw [unread] at planned
  unfold launch prepare
  rw [planned]
  rfl

theorem calls_openedWorld (around : Surroundings) (opening : Opening) (display : Display) :
    (openedWorld around opening display).calls.toList = opening.calls around.script := by
  simp [openedWorld, World.record, World.bare]

theorem silent_opening (opening : Opening) (script : Script) :
    ∀ call ∈ opening.calls script, call.sounds = false := by
  unfold Opening.calls
  cases opening.kind with
  | bare => exact nofun
  | window =>
    dsimp only
    unfold Window.openingCalls
    cases Window.width opening.scaleGiven <;> simp [HostCall.sounds]
  | terminal =>
    dsimp only
    cases Terminal.pixelWidth script.room opening.scaleGiven with
    | error fault => exact nofun
    | ok scale =>
      cases opening.cursorFault script <;>
        simp [Terminal.openingCalls, Terminal.padFor, HostCall.sounds]

theorem silent_closing (display : Display) :
    ∀ call ∈ display.closingCalls, call.sounds = false := by
  cases display with
  | bare panel => exact nofun
  | window window => simp [Display.closingCalls, Window.closingCalls, HostCall.sounds]
  | terminal terminal =>
    change ∀ call ∈ terminal.closingCalls, _
    unfold Terminal.closingCalls
    split <;> simp [HostCall.sounds]

theorem launch_of_rejected {text : String} (complete : Complete arguments)
    (names : Names around arguments filename kind)
    (read : readProgram around filename = .ok program)
    (chosen : Launch.opening arguments (some kind) = .ok opening)
    (opened : opening.display around.script = .ok display)
    (given : arguments.keymap = some (some (.value text)))
    (rejected : Keymap.parse text = .error fault) :
    launch around arguments = endedEarly fault (closeDisplay (openedWorld around opening display)) ∧
      ∀ call ∈ (launch around arguments).world.calls.toList, call.sounds = false := by
  obtain ⟨dialect, mute, -, planned⟩ := plan_of_complete complete names
  rw [read] at planned
  have made (plan : Plan) (world : World) :
      assemble around.noise arguments plan opening.kind world = .error fault world := by
    unfold assemble
    rw [given]
    change (lift (Keymap.parse text) >>= _) world = _
    rw [rejected]
    rfl
  have ended : launch around arguments =
      endedEarly fault (closeDisplay (openedWorld around opening display)) := by
    unfold launch
    rw [prepare_of_opened planned chosen opened, made]
  refine ⟨ended, ?_⟩
  rw [ended]
  change ∀ call ∈ (closeDisplay (openedWorld around opening display)).calls.toList, _
  rw [calls_closeDisplay, calls_openedWorld]
  intro call member
  rcases List.mem_append.1 member with early | late
  · exact silent_opening opening around.script call early
  · exact silent_closing display call late

theorem kind_of_opening (chosen : Launch.opening arguments (some kind) = .ok opening) :
    opening.kind = kind := by
  unfold Launch.opening at chosen
  cases scaled : arguments.scale <;> cases coloured : arguments.palette <;>
    cases moded : arguments.cursorMode <;> rw [scaled, coloured, moded] at chosen <;> cases chosen
  rfl

theorem late_of_complete (complete : Complete arguments) :
    arguments.debug.isSome ∧ arguments.stepsPerFrame.isSome ∧ arguments.strict.isSome :=
  ⟨complete.debug, complete.stepsPerFrame, complete.strict⟩

/-- A launch that has its program, an open display and a keymap comes to a machine if its keyboard
can be opened and its display settles, and in no other case. -/
theorem prepare_eq_ok_iff {text : String} {keymap : Keymap} (complete : Complete arguments)
    (names : Names around arguments filename kind)
    (read : readProgram around filename = .ok program)
    (chosen : Launch.opening arguments (some kind) = .ok opening)
    (opened : opening.display around.script = .ok display)
    (given : arguments.keymap = some (some (.value text)))
    (parsed : Keymap.parse text = .ok keymap) :
    (∃ m world, prepare around arguments = .ok (program, m, world)) ↔
      Reads around.script opening.kind ∧ display.Settles around.script.room := by
  obtain ⟨dialect, mute, -, planned⟩ := plan_of_complete complete names
  rw [read] at planned
  have prepares := prepare_of_opened planned chosen opened
  have keyed : keymapGiven arguments = .ok keymap := by
    unfold keymapGiven
    rw [given]
    exact parsed
  have assembles := assemble_eq_ok_iff around.noise
    { dialect, kind := some kind, mute, program } opening.kind
    (openedWorld around opening display) (late_of_complete complete)
  refine Iff.trans ?_ (assembles.trans (and_iff_right ⟨keymap, keyed⟩))
  rw [prepares]
  constructor
  · rintro ⟨m, world, ready⟩
    split at ready
    · cases ready
    · exact ⟨_, _, ‹_›⟩
  · rintro ⟨m, next, made⟩
    exact ⟨m, next, by rw [made]⟩

theorem shown_setResolution (display : Display) (room : Room) (width height : Int) :
    (display.setResolution room width height).device.panel.shown = display.panel.shown := by
  cases display with
  | bare panel => rfl
  | terminal terminal => rfl
  | window window =>
    change (window.setResolution room width height).device.panel.shown = _
    unfold Window.setResolution
    split <;> rfl

theorem shown_setTitle (display : Display) (room : Room) (title : String) :
    (display.setTitle room title).device.panel.shown = display.panel.shown := by
  cases display with
  | bare panel => rfl
  | window window => rfl
  | terminal terminal =>
    change (terminal.setTitle room title).device.panel.shown = _
    unfold Terminal.setTitle
    dsimp only
    split
    · rfl
    split
    · rfl
    split <;> rfl

theorem shown_attach (world : World) :
    (stateAfter World.attach world).display.panel.shown = world.display.panel.shown := by
  have sized : (stateAfter (World.answer (world.display.setResolution world.script.room 64 32))
      world).display.panel.shown = world.display.panel.shown := by
    rw [World.stateAfter_answer]
    exact shown_setResolution world.display world.script.room 64 32
  have titled : Keeps (fun next : World => next.display.panel.shown = world.display.panel.shown)
      (World.title (Machine.speedTitle 0 0)) := by
    intro next holds
    unfold World.title
    exact (congrArg (·.display.panel.shown) (World.stateAfter_answer _ _)).trans
      ((shown_setTitle next.display next.script.room _).trans holds)
  exact World.attach_of_answer (P := fun next =>
    next.display.panel.shown = world.display.panel.shown) sized titled

variable {m : Machine} {world : World}

theorem new_of_ready (complete : Complete arguments)
    (names : Names around arguments filename kind)
    (prepares : prepare around arguments = .ok (program, m, world)) :
    readProgram around filename = .ok program ∧
      (∃ settings keymap, m = Machine.new settings keymap around.noise) ∧
      world.display.panel.shown = 0 ∧ ∃ mute, arguments.mute = some mute ∧
        world.tenure = Tenure.ofDevices kind (speakerKind kind mute) := by
  rcases prepared around arguments with ⟨report, failed, -⟩ |
    ⟨chosen, opening, display, m', world', planned, selected, opened, made, ready⟩
  · cases failed.symm.trans prepares
  cases ready.symm.trans prepares
  obtain ⟨dialect, mute, mutes, plans⟩ := plan_of_complete complete names
  obtain ⟨typed, sounding, keymap, -, keyed, voiced, attached, settings, isNew⟩ :=
    stages_of_assemble made
  rw [planned] at plans
  cases read : readProgram around filename with
  | error fault =>
    rw [read] at plans
    cases plans
  | ok bytes =>
    rw [read] at plans
    cases plans
    refine ⟨rfl, ⟨settings, keymap, isNew⟩, ?_, mute, mutes, ?_⟩
    · have first := (openKeyboard_keeps opening.kind (openedWorld around opening display)).1
      have third := shown_attach sounding
      rw [stateAfter_of_ok keyed] at first
      rw [stateAfter_of_ok attached] at third
      cases voiced
      rw [third]
      change typed.display.panel.shown = 0
      rw [first]
      exact (dealings_opening opened).2.2
    · obtain ⟨_, also, _, again, likewise, -, -, tenure, -⟩ := Launch.ready ready
      cases planned.symm.trans again
      cases selected.symm.trans likewise
      rw [tenure, kind_of_opening selected]

end Launch

end Chip8
