import Chip8.Proofs.Launch.Early
import Chip8.Proofs.Launch.Runs
import Chip8.Proofs.Loading

namespace Chip8

namespace Machine

theorem crashReport_of_step {m left : Machine} {fault : Fault} (failed : step m = .error fault left)
    (reason : String) :
    ∃ dump, left.crashReport reason = dump ++ " (opcode 0x" ++
      (m.memory.word m.processor.pc).text ++ " at address 0x" ++
      Text.hex 3 m.processor.pc ++ ")" := by
  obtain ⟨fetched, lay, -⟩ := breaks_step failed
  refine ⟨"Emulation halted.\n\n" ++ introduction ++ "Debug info:\n" ++
    left.dump left.currentMnemonic ++ "\n\n" ++ reason, ?_⟩
  rw [← fetched, ← lay]
  rfl

end Machine

namespace Launch

variable {around : Surroundings} {arguments : Arguments} {filename : Option String} {kind : Kind}
variable {fault : Fault} {program : Array UInt8} {m : Machine} {world : World}

section

variable {counted : Bool} {start t : Machine × World}

theorem play_of_large (large : Memory.programSpace < program.size) (counted : Bool)
    (start : Machine × World) :
    play program counted start =
      .error (.programTooLarge program.size Memory.programSpace) start :=
  bind_of_error (Machine.run_load_eq_error World.host large start)

theorem play_of_fits (fits : program.size ≤ Memory.programSpace) (counted : Bool)
    (start : Machine × World) :
    play program counted start = runReporting counted (start.1.loaded program, start.2) :=
  bind_of_ok (Machine.run_load_eq_ok World.host fits start)

/-- The run of a launch: of frames, or one that fails for want of a number of steps. -/
def emulate (counted : Bool) : Session World Machine.Ending :=
  if counted then World.run none else World.runUncounted

theorem runReporting_of_ok {ending : Machine.Ending} (done : emulate counted start = .ok ending t) :
    runReporting counted start = .ok () t := by
  unfold emulate at done
  unfold runReporting
  rw [done]

theorem runReporting_of_error (failed : emulate counted start = .error fault t) :
    runReporting counted start = .error (reportedFault t.1 fault) t := by
  unfold emulate at failed
  unfold runReporting
  rw [failed]

theorem quits_of_emulate {ending : Machine.Ending} (done : emulate counted start = .ok ending t) :
    Machine.Quits World.host sixtyHertz start t := by
  cases counted with
  | true => exact World.quits_of_run done
  | false => exact Machine.quits_of_runFailing done

theorem cause_of_emulate (failed : emulate counted start = .error fault t) :
    (∃ m, Machine.Halts World.host sixtyHertz start m fault t) ∨ World.host.Raises fault ∨
      (counted = false ∧ fault = .stepsBlank) := by
  cases counted with
  | true =>
    rcases Machine.halts_of_run failed with halts | raises
    · exact .inl halts
    · exact .inr (.inl raises)
  | false =>
    rcases Machine.error_of_runFailing failed with blank | raises
    · exact .inr (.inr ⟨rfl, blank⟩)
    · exact .inr (.inl raises)

def closers : List HostCall :=
  [.mixerClosed, .readerStopped, .windowClosed, .cbreakOff, .echoOn, .terminalClosed]

/-- The calls that shut down what a launch holds, in the order in which they have to be made. A
mixer goes with a window that is not muted, and a reader with a terminal. -/
def shutdown (mute : Option Bool) : Kind → List HostCall
  | .bare => []
  | .window => if mute = some true then [.windowClosed] else [.mixerClosed, .windowClosed]
  | .terminal => [.readerStopped, .cbreakOff, .echoOn, .terminalClosed]

/-- A world is closed after a machine has stopped. Its devices are those that the launch asked for;
nothing was shut down before, and afterwards all that was open is, each once and in order. -/
structure ClosesOnce (kind : Kind) (mute : Option Bool) (last closed : World) : Prop where
  devices : last.display.kind = kind ∧ last.keyboard.kind = kind ∧
    last.speaker.kind = speakerKind kind mute
  before : ∀ call ∈ last.calls.toList, call ∉ closers
  reading : last.keyboard.stopRequested = false
  shuts : ∃ later, closed.calls.toList = last.calls.toList ++ later ∧
    later.filter (· ∈ closers) = shutdown mute kind
  stopped : kind = .terminal → closed.keyboard.stopRequested = true

theorem deals_of_closer : ∀ call ∈ closers, call.deals = true := by
  decide

theorem closers_taken (kind : Kind) (speaker : Speaker.Kind) :
    (takes kind ++ takesSound speaker).filter (· ∈ closers) = [] := by
  cases kind <;> cases speaker <;> decide

theorem closers_given (kind : Kind) (mute : Option Bool) :
    (givesSound (speakerKind kind mute) ++ ends kind ++ gives kind).filter (· ∈ closers) =
      shutdown mute kind := by
  cases kind with
  | bare => rfl
  | window =>
    unfold speakerKind shutdown
    dsimp only
    split <;> rfl
  | terminal =>
    unfold speakerKind
    dsimp only
    split <;> rfl

theorem closesOnce_of_held {kind : Kind} {mute : Option Bool} {last : World}
    (held : last.tenure = Tenure.ofDevices kind (speakerKind kind mute)) :
    ClosesOnce kind mute last (closeAll last) := by
  have display : last.display.kind = kind := congrArg Tenure.display held
  have keyboard : last.keyboard.kind = kind := congrArg Tenure.keyboard held
  have speaker : last.speaker.kind = speakerKind kind mute := congrArg Tenure.speaker held
  have dealt : dealings last.calls.toList = takes kind ++ takesSound (speakerKind kind mute) :=
    congrArg Tenure.dealings held
  refine ⟨⟨display, keyboard, speaker⟩, ?_, congrArg Tenure.stopRequested held,
    ⟨_, calls_closeAll last, ?_⟩, fun terminal => stopRequested_closeAll (keyboard.trans terminal)⟩
  · intro call made closer
    have found : call ∈ last.calls.toList.filter (· ∈ closers) :=
      List.mem_filter.2 ⟨made, decide_eq_true closer⟩
    rw [← filter_dealings deals_of_closer, dealt, closers_taken] at found
    cases found
  · rw [← filter_dealings deals_of_closer, dealings_shutdown, display, keyboard, speaker]
    exact closers_given kind mute

end

/-- What a launch comes to that has come to a machine, in a world, that is to load a program. The
report is that of the machine as it stopped. -/
structure Concludes (kind : Kind) (mute : Option Bool) (program : Array UInt8) (counted : Bool)
    (start : Machine × World) (report : Report) : Prop where
  oversized : 3584 < program.size →
    report = endedLate (some (.programTooLarge program.size 3584)) start.1 start.2
  /-- A step that fails on the stack or on the memory makes a crash report of what it left. -/
  crashed : program.size ≤ 3584 → counted = true → ∀ m fault stopped last,
    Machine.Halts World.host sixtyHertz (start.1.loaded program, start.2) m fault (stopped, last) →
    (fault = .stackOverflow ∨ fault = .stackUnderflow ∨ ∃ address, fault = .reservedWrite address) →
    report = endedLate (some (.halted (stopped.crashReport fault.message) fault)) stopped last ∧
      ∃ dump, stopped.crashReport fault.message = dump ++ " (opcode 0x" ++
        (m.memory.word m.processor.pc).text ++ " at address 0x" ++ Text.hex 3 m.processor.pc ++ ")"
  refused : program.size ≤ 3584 → counted = true → ∀ m text stopped last,
    Machine.Halts World.host sixtyHertz (start.1.loaded program, start.2) m (.unmappedOpcode text)
      (stopped, last) →
    report = endedLate (some (.unmappedOpcode text)) stopped last ∧
      text = stopped.crashReport "Opcode is not part of the CHIP-8 instruction set"
  raised : program.size ≤ 3584 → ∀ fault stopped last,
    emulate counted (start.1.loaded program, start.2) = .error fault (stopped, last) →
    (fault = .interrupted ∨ World.host.Raises fault) →
    report = endedLate (some fault) stopped last
  /-- There are no other faults. -/
  caused : ∀ fault, report.fault = some fault →
    (3584 < program.size ∧ fault = .programTooLarge program.size 3584) ∨
    (∃ m cause stopped last, Machine.Halts World.host sixtyHertz
        (start.1.loaded program, start.2) m cause (stopped, last) ∧
      fault = reportedFault stopped cause ∧
      (cause = .stackOverflow ∨ cause = .stackUnderflow ∨
        (∃ address, cause = .reservedWrite address) ∨ ∃ text, cause = .unmappedOpcode text)) ∨
    World.host.Raises fault ∨ (counted = false ∧ fault = .stepsBlank)
  /-- Without a fault a look at the keys, after some turns, asked to quit. -/
  asked : report.fault = none → program.size ≤ 3584 ∧ ∃ stopped last,
    Machine.Quits World.host sixtyHertz (start.1.loaded program, start.2) (stopped, last) ∧
      (∃ s, Machine.pollHost World.host s = .ok true (stopped, last)) ∧
      report = endedLate none stopped last
  closed : ∃ fault stopped last, report = endedLate fault stopped last ∧
    ClosesOnce kind mute last report.world

theorem launch_of_returned {stopped : Machine} {last : World}
    (prepares : prepare around arguments = .ok (program, m, world))
    (played : play program arguments.countsSteps (m, world) = .ok () (stopped, last)) :
    launch around arguments = endedLate none stopped last := by
  unfold launch
  rw [prepares]
  dsimp only
  rw [played]

theorem launch_of_halted {stopped : Machine} {last : World}
    (prepares : prepare around arguments = .ok (program, m, world))
    (played : play program arguments.countsSteps (m, world) = .error fault (stopped, last)) :
    launch around arguments = endedLate (some fault) stopped last := by
  unfold launch
  rw [prepares]
  dsimp only
  rw [played]

theorem launch_of_large (prepares : prepare around arguments = .ok (program, m, world))
    (large : 3584 < program.size) :
    launch around arguments = endedLate (some (.programTooLarge program.size 3584)) m world :=
  launch_of_halted prepares (play_of_large large _ _)

theorem launch_of_ended {ending : Machine.Ending} {stopped : Machine} {last : World}
    (prepares : prepare around arguments = .ok (program, m, world)) (fits : program.size ≤ 3584)
    (done : emulate arguments.countsSteps (m.loaded program, world) = .ok ending (stopped, last)) :
    launch around arguments = endedLate none stopped last := by
  refine launch_of_returned prepares ?_
  rw [play_of_fits fits, runReporting_of_ok done]

theorem launch_of_failed {stopped : Machine} {last : World}
    (prepares : prepare around arguments = .ok (program, m, world)) (fits : program.size ≤ 3584)
    (failed : emulate arguments.countsSteps (m.loaded program, world) =
      .error fault (stopped, last)) :
    launch around arguments = endedLate (some (reportedFault stopped fault)) stopped last := by
  refine launch_of_halted prepares ?_
  rw [play_of_fits fits, runReporting_of_error failed]

theorem reportedFault_of_program (own : ofProgram fault = true) (m : Machine) :
    reportedFault m fault = .halted (m.crashReport fault.message) fault :=
  if_pos own

theorem reportedFault_of_foreign (foreign : ofProgram fault = false) (m : Machine) :
    reportedFault m fault = fault := by
  unfold reportedFault
  rw [foreign]
  rfl

theorem launch_closes {mute : Option Bool}
    (prepares : prepare around arguments = .ok (program, m, world))
    (held : world.tenure = Tenure.ofDevices kind (speakerKind kind mute)) :
    ∃ fault stopped last, launch around arguments = endedLate fault stopped last ∧
      ClosesOnce kind mute last (launch around arguments).world := by
  have kept := tenure_play program arguments.countsSteps (m, world)
  cases played : play program arguments.countsSteps (m, world) with
  | ok value t =>
    rw [stateAfter_of_ok played] at kept
    rw [launch_of_returned prepares played]
    exact ⟨none, t.1, t.2, rfl, closesOnce_of_held (kept.trans held)⟩
  | error fault t =>
    rw [stateAfter_of_error played] at kept
    rw [launch_of_halted prepares played]
    exact ⟨some fault, t.1, t.2, rfl, closesOnce_of_held (kept.trans held)⟩

theorem concludes {mute : Option Bool}
    (prepares : prepare around arguments = .ok (program, m, world))
    (held : world.tenure = Tenure.ofDevices kind (speakerKind kind mute)) :
    Concludes kind mute program arguments.countsSteps (m, world)
      (launch around arguments) where
  oversized := launch_of_large prepares
  crashed fits counts start fault stopped last halts own := by
    have failed : emulate arguments.countsSteps (m.loaded program, world) =
        .error fault (stopped, last) := by
      rw [counts]
      exact World.run_of_halts halts
    have owned : ofProgram fault = true := by
      rcases own with rfl | rfl | ⟨address, rfl⟩ <;> rfl
    rw [launch_of_failed prepares fits failed, reportedFault_of_program owned]
    exact ⟨rfl, Machine.crashReport_of_step halts.breaks.1 fault.message⟩
  refused fits counts start text stopped last halts := by
    have failed : emulate arguments.countsSteps (m.loaded program, world) =
        .error (.unmappedOpcode text) (stopped, last) := by
      rw [counts]
      exact World.run_of_halts halts
    rw [launch_of_failed prepares fits failed, reportedFault_of_foreign rfl]
    obtain ⟨-, breaks⟩ := halts.breaks
    cases breaks
    exact ⟨rfl, rfl⟩
  raised fits fault stopped last failed foreign := by
    have passed : ofProgram fault = false := by
      rcases foreign with rfl | raises
      · rfl
      · exact World.foreign_of_raises raises
    rw [launch_of_failed prepares fits failed, reportedFault_of_foreign passed]
  caused fault reported := by
    rcases Nat.lt_or_ge 3584 program.size with large | fits
    · rw [launch_of_large prepares large] at reported
      cases reported
      exact .inl ⟨large, rfl⟩
    right
    cases ran : emulate arguments.countsSteps (m.loaded program, world) with
    | ok ending t =>
      rw [launch_of_ended prepares fits ran] at reported
      cases reported
    | error cause t =>
      rw [launch_of_failed prepares fits ran] at reported
      cases reported
      -- What a step fails with may be wrapped; what the host fails with is not.
      rcases cause_of_emulate ran with ⟨start, halts⟩ | raises | ⟨counts, rfl⟩
      · refine .inl ⟨start, cause, t.1, t.2, halts, rfl, ?_⟩
        cases halts.breaks.2 with
        | stackOverflow => exact .inl rfl
        | stackUnderflow => exact .inr (.inl rfl)
        | reservedWrite address => exact .inr (.inr (.inl ⟨address, rfl⟩))
        | unmappedOpcode => exact .inr (.inr (.inr ⟨_, rfl⟩))
      · rw [reportedFault_of_foreign (World.foreign_of_raises raises)]
        exact .inr (.inl raises)
      · exact .inr (.inr ⟨counts, rfl⟩)
  asked faultless := by
    rcases Nat.lt_or_ge 3584 program.size with large | fits
    · rw [launch_of_large prepares large] at faultless
      cases faultless
    cases ran : emulate arguments.countsSteps (m.loaded program, world) with
    | ok ending t =>
      have quits := quits_of_emulate ran
      exact ⟨fits, t.1, t.2, quits, quits.asked, launch_of_ended prepares fits ran⟩
    | error cause t =>
      rw [launch_of_failed prepares fits ran] at faultless
      cases faultless
  closed := launch_closes prepares held

/-- What launches come to whose arguments are all there and name a display that there is. If the
program cannot be read, that is reported, and the host has not been called. If the keymap is refused
once the display is open, that is reported, with the display closed again and nothing sounded. There
is a machine if the keyboard can be opened and the display settles; it is new by then, and nothing
was shown. Without one no launch is faultless, and with one it concludes as above. -/
theorem launch_outcomes (around : Surroundings) (arguments : Arguments)
    (filename : Option String) (kind : Kind) (complete : Complete arguments)
    (names : Names around arguments filename kind) :
    (∀ fault, readProgram around filename = .error fault →
      (launch around arguments).fault = some fault ∧
        (launch around arguments).world.calls = #[]) ∧
    (∀ program opening display text fault, readProgram around filename = .ok program →
      Launch.opening arguments (some kind) = .ok opening →
      opening.display around.script = .ok display →
      arguments.keymap = some (some (.value text)) → Keymap.parse text = .error fault →
      let calls := (launch around arguments).world.calls.toList
      (fault = .keyCount ∨ (∃ blank, fault = .keyBlank blank) ∨ fault = .keyRepeated) ∧
        (launch around arguments).fault = some fault ∧
        calls = opening.calls around.script ++ display.closingCalls ∧
        dealings calls = takes kind ++ gives kind ∧ ∀ call ∈ calls, call.sounds = false) ∧
    (∀ program opening display text keymap, readProgram around filename = .ok program →
      Launch.opening arguments (some kind) = .ok opening →
      opening.display around.script = .ok display →
      arguments.keymap = some (some (.value text)) → Keymap.parse text = .ok keymap →
      ((∃ m world, prepare around arguments = .ok (program, m, world)) ↔
        Reads around.script kind ∧ display.Settles around.script.room)) ∧
    ((launch around arguments).fault = none →
      ∃ program m world, prepare around arguments = .ok (program, m, world)) ∧
    ∀ program m world, prepare around arguments = .ok (program, m, world) →
      readProgram around filename = .ok program ∧
        (∃ settings keymap, m = Machine.new settings keymap around.noise) ∧
        world.display.panel.shown = 0 ∧
        ∃ mute, arguments.mute = some mute ∧
          Concludes kind mute program arguments.countsSteps (m, world)
            (launch around arguments) := by
  refine ⟨?_, ?_, ?_, ?_, ?_⟩
  · intro fault unread
    rw [launch_of_unread complete names unread]
    exact ⟨rfl, rfl⟩
  · intro program opening display text fault read chosen opened given rejected calls
    obtain ⟨ended, silent⟩ := launch_of_rejected complete names read chosen opened given rejected
    have made : calls = opening.calls around.script ++ display.closingCalls := by
      change (launch around arguments).world.calls.toList = _
      rw [ended]
      change (closeDisplay (openedWorld around opening display)).calls.toList = _
      rw [calls_closeDisplay, calls_openedWorld]
      rfl
    refine ⟨Keymap.rejects_parse rejected, congrArg Report.fault ended, made, ?_, silent⟩
    obtain ⟨dealt, shows, -⟩ := dealings_opening opened
    rw [made, dealings_append, dealt, dealings_closing, shows, kind_of_opening chosen]
  · intro program opening display text keymap read chosen opened given parsed
    rw [prepare_eq_ok_iff complete names read chosen opened given parsed, kind_of_opening chosen]
  · intro faultless
    have how := launched around arguments
    generalize launch around arguments = report at how faultless
    cases how with
    | returned prepared played => exact ⟨_, _, _, prepared⟩
    | _ => cases faultless
  · intro program m world prepares
    obtain ⟨read, isNew, unshown, mute, mutes, held⟩ := new_of_ready complete names prepares
    exact ⟨read, isNew, unshown, mute, mutes, concludes prepares held⟩

def shelf : Surroundings where
  read name :=
    if name = "large.ch8" then .ok (Array.replicate 3585 0) else .error (.fileMissing name)
  noise := Noise.cycle #[0]
  windows := false
  terminals := true
  clock := Clock.startingAt 0 #[] Clock.standardLimit
  script := {}

def onTerminal (filename : String) : Arguments where
  filename := some (some filename)
  stepsPerFrame := some none
  renderer := some (some (.value "curses"))
  scale := some none
  mute := some none
  keymap := some (some (.value Keymap.standard))
  cursorMode := some (some (.value 0))
  palette := some none
  shift := some none
  load := some none
  logic := some none
  strict := some false
  debug := some false

theorem complete_onTerminal (filename : String) : Complete (onTerminal filename) := by
  constructor <;> rfl

theorem names_onTerminal (filename : String) :
    Names shelf (onTerminal filename) (some filename) .terminal :=
  ⟨rfl, _, rfl, by decide⟩

theorem launch_outcomes_oversized :
    Complete (onTerminal "large.ch8") ∧
      Names shelf (onTerminal "large.ch8") (some "large.ch8") .terminal ∧
      (launch shelf (onTerminal "large.ch8")).fault = some (.programTooLarge 3585 3584) ∧
      (launch shelf (onTerminal "large.ch8")).world.calls.toList.filter (· ∈ closers) =
        [.readerStopped, .cbreakOff, .echoOn, .terminalClosed] ∧
      (launch shelf (onTerminal "large.ch8")).world.keyboard.stopRequested = true := by
  obtain ⟨-, -, ready, -, concluding⟩ := launch_outcomes shelf (onTerminal "large.ch8") _ .terminal
    (complete_onTerminal _) (names_onTerminal _)
  have read : readProgram shelf (some "large.ch8") = .ok (Array.replicate 3585 0) := by
    simp [readProgram, shelf]
  obtain ⟨keymap, parsed⟩ : ∃ keymap, Keymap.parse Keymap.standard = .ok keymap := ⟨_, rfl⟩
  obtain ⟨m, world, prepares⟩ := (ready _ _ (.terminal (Terminal.new (some (.value 0)) 2)) _ keymap
    read rfl rfl rfl parsed).2 ⟨.inl rfl, .inr ⟨by decide, by decide⟩⟩
  obtain ⟨-, -, -, mute, -, concludes⟩ := concluding _ m world prepares
  obtain ⟨fault, stopped, last, -, closes⟩ := concludes.closed
  obtain ⟨later, made, given⟩ := closes.shuts
  have before : last.calls.toList.filter (· ∈ closers) = [] :=
    List.filter_eq_nil_iff.2 fun call member closer =>
      closes.before call member (of_decide_eq_true closer)
  refine ⟨complete_onTerminal _, names_onTerminal _, ?_, ?_, closes.stopped rfl⟩
  · rw [concludes.oversized (by simp)]
    simp [endedLate]
  · rw [made, List.filter_append, before, given]
    rfl

end Launch

end Chip8
