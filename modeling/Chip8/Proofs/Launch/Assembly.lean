import Chip8.Proofs.Launch.Tenure

namespace Chip8

namespace Display

/-- There is memory for the picture of a window of 64 by 32 pixels, and for the row that the first
title of a terminal fills if it is shorter than that. -/
def Settles (room : Room) : Display → Prop
  | bare _ => True
  | window _ => hasRoom room (64 * 32 * 3) = true
  | terminal shown =>
    64 * shown.panel.scale ≤ (Machine.speedTitle 0 0).length ∨
      fits (64 * shown.panel.scale) = true ∧ hasRoom room (64 * shown.panel.scale) = true

theorem plain_standard (room : Room) (colour : Colour) : Window.plain room colour 64 32 =
    if hasRoom room (64 * 32 * 3) then .ok (some (Array.replicate 2048 colour))
    else .error .memoryExhausted := by
  unfold Window.plain
  rw [if_neg (by decide), if_neg (by decide), if_neg (by decide)]
  cases hasRoom room (64 * 32 * 3) <;> rfl

theorem fault_setResolution_window (window : Window) (room : Room) :
    (window.setResolution room 64 32).fault = none ↔ hasRoom room (64 * 32 * 3) = true := by
  unfold Window.setResolution
  rw [plain_standard]
  cases hasRoom room (64 * 32 * 3) <;> simp

theorem fault_setTitle_terminal (terminal : Terminal) (room : Room) (title : String) :
    (terminal.setTitle room title).fault = none ↔
      terminal.columns ≤ title.length ∨
        fits terminal.columns = true ∧ hasRoom room terminal.columns = true := by
  unfold Terminal.setTitle
  dsimp only
  by_cases narrow : terminal.columns ≤ title.length
  · simp [narrow]
  · cases fits terminal.columns <;> cases hasRoom room terminal.columns <;> simp [narrow]

theorem settles_iff (display : Display) (room : Room) :
    display.Settles room ↔ (display.setResolution room 64 32).fault = none ∧
      ((display.setResolution room 64 32).device.setTitle room (Machine.speedTitle 0 0)).fault =
        none := by
  cases display with
  | bare panel => exact ⟨fun _ => ⟨rfl, rfl⟩, fun _ => trivial⟩
  | window window =>
    have sized := fault_setResolution_window window room
    exact ⟨fun settles => ⟨sized.2 settles, rfl⟩, fun fine => sized.1 fine.1⟩
  | terminal terminal =>
    have titled := fault_setTitle_terminal (terminal.setResolution 64 32).device room
      (Machine.speedTitle 0 0)
    exact ⟨fun settles => ⟨rfl, titled.2 settles⟩, fun fine => titled.1 fine.2⟩

end Display

namespace World

variable {world next : World} {fault : Fault}

theorem answer_eq_ok_iff {response : Response Display} :
    answer response world = .ok () next ↔ response.fault = none ∧
      next = { world with display := response.device }.record response.calls := by
  unfold answer
  cases response.fault with
  | none => exact ⟨fun done => ⟨rfl, by cases done; rfl⟩, fun done => done.2 ▸ rfl⟩
  | some fault => exact ⟨nofun, nofun⟩

theorem attach_eq_ok_iff :
    (∃ next, attach world = .ok () next) ↔ world.display.Settles world.script.room := by
  rw [Display.settles_iff]
  constructor
  · rintro ⟨next, attached⟩
    change (answer (world.display.setResolution world.script.room 64 32) >>= fun _ =>
      title (Machine.speedTitle 0 0)) world = _ at attached
    obtain ⟨_, sized, answered, titled⟩ := ok_of_bind attached
    obtain ⟨fine, rfl⟩ := answer_eq_ok_iff.1 answered
    exact ⟨fine, (answer_eq_ok_iff.1 titled).1⟩
  · rintro ⟨sized, titled⟩
    exact ⟨_, (bind_of_ok (answer_eq_ok_iff.2 ⟨sized, rfl⟩)).trans
      (answer_eq_ok_iff.2 ⟨titled, rfl⟩)⟩

theorem typeNext_eq_ok_iff {typist : Typist Float} (has : world.keyboard = .terminal typist) :
    (∃ next, typeNext world = .ok () next) ↔ world.script.threaded = true ∨
      (typist.typing.type (world.script.typed.headD [])).2 = none := by
  unfold typeNext
  rw [has]
  dsimp only
  cases (typist.typing.type (world.script.typed.headD [])).2 with
  | none => exact ⟨fun _ => .inr rfl, fun _ => ⟨_, rfl⟩⟩
  | some fault => by_cases threaded : world.script.threaded = true <;> simp [threaded]

end World

namespace Launch

/-- The reader of a terminal has a thread of its own, or is not stopped by what is typed first. -/
def Reads (script : Script) : Kind → Prop
  | .bare => True
  | .window => True
  | .terminal =>
    script.threaded = true ∨ (Typing.start.type (script.typed.headD [])).2 = none

def withReader (world : World) : World :=
  { world with keyboard := .terminal Typist.start }.record [.readerStarted]

theorem keyboard_withReader (world : World) :
    (withReader world).keyboard = .terminal Typist.start :=
  rfl

variable {kind : Kind} {world : World}

theorem openKeyboard_eq_ok_iff (world : World) :
    (∃ next, openKeyboard kind world = .ok () next) ↔ Reads world.script kind := by
  cases kind with
  | bare => exact ⟨fun _ => trivial, fun _ => ⟨_, rfl⟩⟩
  | window => exact ⟨fun _ => trivial, fun _ => ⟨_, rfl⟩⟩
  | terminal => exact World.typeNext_eq_ok_iff (keyboard_withReader world)

theorem openKeyboard_keeps (kind : Kind) (world : World) :
    (stateAfter (openKeyboard kind) world).display = world.display ∧
      (stateAfter (openKeyboard kind) world).script.room = world.script.room := by
  cases kind with
  | bare => exact ⟨rfl, rfl⟩
  | window => exact ⟨rfl, rfl⟩
  | terminal =>
    change (stateAfter World.typeNext (withReader world)).display = _ ∧
      (stateAfter World.typeNext (withReader world)).script.room = _
    rw [World.stateAfter_typeNext (keyboard_withReader world)]
    exact ⟨rfl, rfl⟩

variable {α β : Type} {value : Except Fault α} {rest : α → EStateM Fault World β}
variable {next : World} {fault : Fault}

theorem ok_of_lift {b : β} (done : (lift value >>= rest) world = .ok b next) :
    ∃ a, value = .ok a ∧ rest a world = .ok b next := by
  cases value with
  | error fault => cases done
  | ok a => exact ⟨a, rfl, done⟩

theorem error_of_lift (failed : (lift value >>= rest) world = .error fault next) :
    (value = .error fault ∧ next = world) ∨
      ∃ a, value = .ok a ∧ rest a world = .error fault next := by
  cases value with
  | error cause =>
    cases failed
    exact .inl ⟨rfl, rfl⟩
  | ok a => exact .inr ⟨a, rfl, failed⟩

def Unread (world : World) : Prop :=
  ∃ patience, world.keyboard = .bare patience

theorem tenure_openKeyboard (unread : Unread world) (kind : Kind) :
    (stateAfter (openKeyboard kind) world).tenure = { world.tenure with keyboard := kind } := by
  obtain ⟨patience, bare⟩ := unread
  cases kind with
  | bare =>
    change world.tenure = _
    unfold World.tenure
    rw [bare]
    rfl
  | window =>
    change { world with keyboard := Keyboard.window }.tenure = _
    unfold World.tenure
    rw [bare]
    rfl
  | terminal =>
    refine (World.tenure_typeNext (withReader world)).trans ?_
    unfold World.tenure withReader
    rw [World.dealings_record, bare]
    change Tenure.mk _ _ _ (_ ++ []) false = _
    rw [List.append_nil]
    rfl

def Tenure.withDevices (tenure : Tenure) (keyboard : Kind) (speaker : Speaker.Kind) : Tenure :=
  { tenure with keyboard, speaker, dealings := tenure.dealings ++ takesSound speaker }

theorem tenure_openSpeaker (kind : Speaker.Kind) (world : World) :
    (stateAfter (openSpeaker kind) world).tenure = { world.tenure with
      speaker := kind, dealings := world.tenure.dealings ++ takesSound kind } := by
  change ({ world with speaker := Speaker.new kind }.record (Speaker.openingCalls kind)).tenure = _
  unfold World.tenure
  rw [World.dealings_record, dealings_openingSound]
  rfl

variable {noise : Noise} {arguments : Arguments} {plan : Plan} {m : Machine}

def keymapGiven (arguments : Arguments) : Except Fault Keymap :=
  (required "keymap" arguments.keymap).bind keymapOf

theorem stages_of_assemble (done : assemble noise arguments plan kind world = .ok m next) :
    ∃ typed sounding keymap, keymapGiven arguments = .ok keymap ∧
      openKeyboard kind world = .ok () typed ∧
      openSpeaker (speakerKind kind plan.mute) typed = .ok () sounding ∧
      World.attach sounding = .ok () next ∧
      ∃ settings, m = Machine.new settings keymap noise := by
  unfold assemble at done
  obtain ⟨text, there, done⟩ := ok_of_lift done
  obtain ⟨keymap, parsed, done⟩ := ok_of_lift done
  obtain ⟨_, typed, keyed, done⟩ := ok_of_bind done
  obtain ⟨_, sounding, voiced, done⟩ := ok_of_bind done
  obtain ⟨live, -, done⟩ := ok_of_lift done
  obtain ⟨stepsPerFrame, -, done⟩ := ok_of_lift done
  obtain ⟨strict, -, done⟩ := ok_of_lift done
  obtain ⟨_, attached, shown, made⟩ := ok_of_bind done
  cases made
  refine ⟨typed, sounding, keymap, ?_, keyed, voiced, shown, _, rfl⟩
  unfold keymapGiven
  rw [there]
  exact parsed

theorem tenure_of_stages (unread : Unread world) {typed sounding : World}
    (keyed : openKeyboard kind world = .ok () typed)
    (voiced : openSpeaker (speakerKind kind plan.mute) typed = .ok () sounding) :
    (stateAfter World.attach sounding).tenure =
      world.tenure.withDevices kind (speakerKind kind plan.mute) := by
  have first := tenure_openKeyboard unread kind
  have second := tenure_openSpeaker (speakerKind kind plan.mute) typed
  rw [stateAfter_of_ok keyed] at first
  rw [stateAfter_of_ok voiced] at second
  rw [World.tenure_attach, second, first]
  rfl

theorem settles_of_stages {typed sounding : World} (keyed : openKeyboard kind world = .ok () typed)
    (voiced : openSpeaker (speakerKind kind plan.mute) typed = .ok () sounding) :
    sounding.display.Settles sounding.script.room ↔ world.display.Settles world.script.room := by
  have kept := openKeyboard_keeps kind world
  rw [stateAfter_of_ok keyed] at kept
  cases voiced
  change typed.display.Settles typed.script.room ↔ _
  rw [kept.1, kept.2]

theorem required_ne_error {argument : Option α} {name : String} (there : argument.isSome) :
    required name argument ≠ .error fault := by
  cases argument with
  | none => cases there
  | some a => exact nofun

theorem stages_of_assemble_error (late : arguments.debug.isSome ∧
      arguments.stepsPerFrame.isSome ∧ arguments.strict.isSome)
    (failed : assemble noise arguments plan kind world = .error fault next) :
    (keymapGiven arguments = .error fault ∧ next = world) ∨
      openKeyboard kind world = .error fault next ∨
      ∃ typed sounding keymap, keymapGiven arguments = .ok keymap ∧
        openKeyboard kind world = .ok () typed ∧
        openSpeaker (speakerKind kind plan.mute) typed = .ok () sounding ∧
        World.attach sounding = .error fault next := by
  unfold assemble at failed
  unfold keymapGiven
  rcases error_of_lift failed with ⟨missing, rfl⟩ | ⟨text, there, failed⟩
  · rw [missing]
    exact .inl ⟨rfl, rfl⟩
  rw [there]
  rcases error_of_lift failed with ⟨refused, rfl⟩ | ⟨keymap, parsed, failed⟩
  · exact .inl ⟨refused, rfl⟩
  rcases error_of_bind failed with keyed | ⟨_, typed, keyed, failed⟩
  · exact .inr (.inl keyed)
  rcases error_of_bind failed with voiced | ⟨_, sounding, voiced, failed⟩
  · cases voiced
  rcases error_of_lift failed with ⟨missing, -⟩ | ⟨live, -, failed⟩
  · exact absurd missing (required_ne_error late.1)
  rcases error_of_lift failed with ⟨missing, -⟩ | ⟨stepsPerFrame, -, failed⟩
  · exact absurd missing (required_ne_error late.2.1)
  rcases error_of_lift failed with ⟨missing, -⟩ | ⟨strict, -, failed⟩
  · exact absurd missing (required_ne_error late.2.2)
  rcases error_of_bind failed with shown | ⟨_, attached, -, made⟩
  · exact .inr (.inr ⟨typed, sounding, keymap, parsed, keyed, voiced, shown⟩)
  · cases made

/-- A machine is put together if its keymap is accepted, its keyboard is opened, and its display
settles, and in no other case. -/
theorem assemble_eq_ok_iff (noise : Noise) (plan : Plan) (kind : Kind) (world : World)
    (late : arguments.debug.isSome ∧ arguments.stepsPerFrame.isSome ∧ arguments.strict.isSome) :
    (∃ m next, assemble noise arguments plan kind world = .ok m next) ↔
      (∃ keymap, keymapGiven arguments = .ok keymap) ∧ Reads world.script kind ∧
        world.display.Settles world.script.room := by
  constructor
  · rintro ⟨m, next, done⟩
    obtain ⟨typed, sounding, keymap, parsed, keyed, voiced, shown, -⟩ := stages_of_assemble done
    exact ⟨⟨keymap, parsed⟩, (openKeyboard_eq_ok_iff world).1 ⟨typed, keyed⟩,
      (settles_of_stages keyed voiced).1 (World.attach_eq_ok_iff.1 ⟨next, shown⟩)⟩
  · rintro ⟨⟨keymap, parsed⟩, reads, settles⟩
    cases made : assemble noise arguments plan kind world with
    | ok m next => exact ⟨m, next, rfl⟩
    | error fault next =>
      rcases stages_of_assemble_error late made with ⟨refused, -⟩ | keyed |
        ⟨typed, sounding, _, -, keyed, voiced, shown⟩
      · cases parsed.symm.trans refused
      · obtain ⟨typed, opened⟩ := (openKeyboard_eq_ok_iff world).2 reads
        cases opened.symm.trans keyed
      · obtain ⟨attached, set⟩ :=
          World.attach_eq_ok_iff.2 ((settles_of_stages keyed voiced).2 settles)
        cases set.symm.trans shown

end Launch

end Chip8
