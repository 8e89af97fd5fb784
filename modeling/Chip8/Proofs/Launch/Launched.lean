import Chip8.Proofs.Launch.Assembly

namespace Chip8

namespace Launch

variable {arguments : Arguments} {world : World} {fault : Fault}

def openedWorld (around : Surroundings) (opening : Opening) (display : Display) : World :=
  { (World.bare around.clock around.script none).record (opening.calls around.script) with
    display }

theorem unread_openedWorld (around : Surroundings) (opening : Opening) (display : Display) :
    Unread (openedWorld around opening display) :=
  ⟨none, rfl⟩

inductive Launched (around : Surroundings) (arguments : Arguments) : Report → Prop where
  | unplanned {fault : Fault} (failed : Launch.plan around arguments = .error fault) :
      Launched around arguments
        (endedEarly fault (World.bare around.clock around.script none))
  | unopened {plan : Plan} {fault : Fault} (planned : Launch.plan around arguments = .ok plan)
      (failed : Launch.opening arguments plan.kind = .error fault) :
      Launched around arguments
        (endedEarly fault (World.bare around.clock around.script none))
  | spoilt {plan : Plan} {opening : Opening} {fault : Fault}
      (planned : Launch.plan around arguments = .ok plan)
      (chosen : Launch.opening arguments plan.kind = .ok opening)
      (failed : opening.display around.script = .error fault) :
      Launched around arguments (endedEarly fault
        ((World.bare around.clock around.script none).record (opening.calls around.script)))
  | unassembled {plan : Plan} {opening : Opening} {display : Display} {fault : Fault}
      {world : World} (planned : Launch.plan around arguments = .ok plan)
      (chosen : Launch.opening arguments plan.kind = .ok opening)
      (opened : opening.display around.script = .ok display)
      (failed : assemble around.noise arguments plan opening.kind
        (openedWorld around opening display) = .error fault world) :
      Launched around arguments (endedEarly fault (closeDisplay world))
  | returned {program : Array UInt8} {m stopped : Machine} {world last : World}
      (prepared : prepare around arguments = .ok (program, m, world))
      (played : play program arguments.countsSteps (m, world) = .ok () (stopped, last)) :
      Launched around arguments (endedLate none stopped last)
  | halted {program : Array UInt8} {m stopped : Machine} {world last : World} {fault : Fault}
      (prepared : prepare around arguments = .ok (program, m, world))
      (played : play program arguments.countsSteps (m, world) = .error fault (stopped, last)) :
      Launched around arguments (endedLate (some fault) stopped last)

variable {around : Surroundings} {opening : Opening} {display : Display} {program : Array UInt8}

theorem openDisplay_of_error (world : World)
    (failed : opening.display world.script = .error fault) :
    openDisplay opening world = .error fault (world.record (opening.calls world.script)) := by
  unfold openDisplay
  rw [failed]

theorem openDisplay_of_ok (world : World) (opened : opening.display world.script = .ok display) :
    openDisplay opening world =
      .ok () { world.record (opening.calls world.script) with display } := by
  unfold openDisplay
  rw [opened]

theorem prepare_of_opened {plan : Plan} (planned : Launch.plan around arguments = .ok plan)
    (chosen : Launch.opening arguments plan.kind = .ok opening)
    (opened : opening.display around.script = .ok display) :
    prepare around arguments =
      match assemble around.noise arguments plan opening.kind
        (openedWorld around opening display) with
      | .error fault world => .error (endedEarly fault (closeDisplay world))
      | .ok m world => .ok (plan.program, m, world) := by
  unfold prepare
  rw [planned]
  dsimp only
  rw [chosen]
  dsimp only
  rw [openDisplay_of_ok (World.bare around.clock around.script none) opened]
  rfl

theorem prepared (around : Surroundings) (arguments : Arguments) :
    (∃ report, prepare around arguments = .error report ∧ Launched around arguments report) ∨
      ∃ plan opening display m world, Launch.plan around arguments = .ok plan ∧
        Launch.opening arguments plan.kind = .ok opening ∧
        opening.display around.script = .ok display ∧
        assemble around.noise arguments plan opening.kind (openedWorld around opening display) =
          .ok m world ∧
        prepare around arguments = .ok (plan.program, m, world) := by
  cases planned : Launch.plan around arguments with
  | error fault =>
    unfold prepare
    rw [planned]
    exact .inl ⟨_, rfl, .unplanned planned⟩
  | ok plan =>
    cases chosen : Launch.opening arguments plan.kind with
    | error fault =>
      unfold prepare
      rw [planned]
      dsimp only
      rw [chosen]
      exact .inl ⟨_, rfl, .unopened planned chosen⟩
    | ok opening =>
      cases opened : opening.display around.script with
      | error fault =>
        unfold prepare
        rw [planned]
        dsimp only
        rw [chosen]
        dsimp only
        rw [openDisplay_of_error (World.bare around.clock around.script none) opened]
        exact .inl ⟨_, rfl, .spoilt planned chosen opened⟩
      | ok display =>
        rw [prepare_of_opened planned chosen opened]
        cases made : assemble around.noise arguments plan opening.kind
            (openedWorld around opening display) with
        | error fault world => exact .inl ⟨_, rfl, .unassembled planned chosen opened made⟩
        | ok m world =>
          exact .inr ⟨plan, opening, display, m, world, rfl, chosen, opened, made, rfl⟩

theorem launched (around : Surroundings) (arguments : Arguments) :
    Launched around arguments (launch around arguments) := by
  unfold launch
  rcases prepared around arguments with ⟨report, failed, how⟩ |
    ⟨plan, opening, display, m, world, -, -, -, -, ready⟩
  · rw [failed]
    exact how
  · rw [ready]
    dsimp only
    cases played : play plan.program arguments.countsSteps (m, world) with
    | ok value session => exact .returned ready played
    | error fault session => exact .halted ready played

variable {m : Machine}

def Tenure.ofDevices (kind : Kind) (speaker : Speaker.Kind) : Tenure where
  display := kind
  keyboard := kind
  speaker := speaker
  dealings := takes kind ++ takesSound speaker
  stopRequested := false

theorem ready (prepares : prepare around arguments = .ok (program, m, world)) :
    ∃ plan opening display, Launch.plan around arguments = .ok plan ∧
      Launch.opening arguments plan.kind = .ok opening ∧
      opening.display around.script = .ok display ∧ program = plan.program ∧
      world.tenure = Tenure.ofDevices opening.kind (speakerKind opening.kind plan.mute) ∧
      ∃ settings keymap, m = Machine.new settings keymap around.noise := by
  rcases prepared around arguments with ⟨report, failed, -⟩ |
    ⟨plan, opening, display, m', world', planned, chosen, opened, made, ready⟩
  · cases failed.symm.trans prepares
  · cases ready.symm.trans prepares
    obtain ⟨typed, sounding, keymap, -, keyed, voiced, shown, settings, isNew⟩ :=
      stages_of_assemble made
    have tenure := tenure_of_stages (unread_openedWorld around opening display) keyed voiced
    rw [stateAfter_of_ok shown] at tenure
    obtain ⟨dealt, shows, -⟩ := dealings_opening opened
    refine ⟨plan, opening, display, planned, chosen, opened, rfl, ?_, settings, keymap, isNew⟩
    rw [tenure]
    unfold World.tenure Tenure.withDevices openedWorld
    dsimp only
    rw [shows, World.dealings_record, dealt]
    rfl

theorem stateAfter_runReporting (counted : Bool) (s : Machine × World) :
    stateAfter (runReporting counted) s =
      stateAfter (if counted then World.run none else World.runUncounted) s := by
  unfold stateAfter runReporting
  cases (if counted then World.run none else World.runUncounted) s <;> rfl

theorem tenure_play (program : Array UInt8) (counted : Bool) (s : Machine × World) :
    (stateAfter (play program counted) s).2.tenure = s.2.tenure := by
  -- Loading changes the machine alone, and either kind of run keeps the tenure of its world.
  have kept := World.tenure_invariant s.2.tenure
  have reporting : Keeps (fun t : Machine × World => t.2.tenure = s.2.tenure)
      (runReporting counted) := by
    intro t holds
    rw [stateAfter_runReporting]
    cases counted with
    | true => exact Machine.keeps_run kept t holds
    | false => exact Machine.keeps_runFailing kept t holds
  have playing : Keeps (fun t : Machine × World => t.2.tenure = s.2.tenure)
      (play program counted) :=
    Keeps.bind (Session.keeps_world (P := fun world : World => world.tenure = s.2.tenure) _)
      fun _ => reporting
  exact playing s rfl

theorem calls_closeDisplay (world : World) :
    (closeDisplay world).calls.toList = world.calls.toList ++ world.display.closingCalls := by
  simp [closeDisplay, World.record]

theorem calls_closeKeyboard (world : World) :
    (closeKeyboard world).calls.toList = world.calls.toList ++ ends world.keyboard.kind ∧
      (closeKeyboard world).display = world.display := by
  unfold closeKeyboard
  cases world.keyboard with
  | bare patience => exact ⟨(List.append_nil _).symm, rfl⟩
  | window => exact ⟨(List.append_nil _).symm, rfl⟩
  | terminal typist => simp [World.record, ends, Keyboard.kind]

theorem calls_closeAll (world : World) :
    (closeAll world).calls.toList =
      world.calls.toList ++ (Speaker.closingCalls world.speaker.kind ++
        ends world.keyboard.kind ++ world.display.closingCalls) := by
  obtain ⟨asked, shows⟩ := calls_closeKeyboard (closeSpeaker world)
  unfold closeAll
  rw [calls_closeDisplay, asked, shows]
  simp [closeSpeaker, World.record]

theorem stopRequested_closeAll (reads : world.keyboard.kind = .terminal) :
    (closeAll world).keyboard.stopRequested = true := by
  cases has : world.keyboard with
  | bare patience => rw [has] at reads; cases reads
  | window => rw [has] at reads; cases reads
  | terminal typist =>
    have speaking : (closeSpeaker world).keyboard = .terminal typist := has
    unfold closeAll closeDisplay closeKeyboard
    rw [speaking]
    rfl

theorem dealings_closeDisplay (world : World) :
    dealings (closeDisplay world).calls.toList =
      dealings world.calls.toList ++ gives world.display.kind := by
  rw [calls_closeDisplay, dealings_append, dealings_closing]

theorem dealings_shutdown (world : World) :
    dealings (Speaker.closingCalls world.speaker.kind ++ ends world.keyboard.kind ++
      world.display.closingCalls) =
        givesSound world.speaker.kind ++ ends world.keyboard.kind ++ gives world.display.kind := by
  have asked : dealings (ends world.keyboard.kind) = ends world.keyboard.kind := by
    cases world.keyboard <;> rfl
  rw [dealings_append, dealings_append, dealings_closingSound, dealings_closing, asked]

theorem dealings_of_held {last : World} {kind : Kind} {speaker : Speaker.Kind}
    (held : last.tenure = Tenure.ofDevices kind speaker) :
    dealings (closeAll last).calls.toList =
      takes kind ++ takesSound speaker ++ (givesSound speaker ++ ends kind ++ gives kind) := by
  have dealt : dealings last.calls.toList = takes kind ++ takesSound speaker :=
    congrArg Tenure.dealings held
  have display : last.display.kind = kind := congrArg Tenure.display held
  have keyboard : last.keyboard.kind = kind := congrArg Tenure.keyboard held
  have speaks : last.speaker.kind = speaker := congrArg Tenure.speaker held
  rw [calls_closeAll, dealings_append, dealings_shutdown, dealt, display, keyboard, speaks]

end Launch

end Chip8
