import Chip8.Launch
import Chip8.Proofs.Keyboard.Interplay
import Chip8.Proofs.Run.Endings

namespace Chip8

/-- Whether a call takes something of the host, gives it back, or asks a reader to stop. -/
def HostCall.deals : HostCall → Bool
  | windowOpened | windowClosed | mixerOpened | mixerClosed | readerStopped => true
  | terminalOpened | echoOff | cbreakOn | cbreakOff | echoOn | terminalClosed => true
  | _ => false

def Display.kind : Display → Launch.Kind
  | bare _ => .bare
  | window _ => .window
  | terminal _ => .terminal

def Keyboard.kind : Keyboard → Launch.Kind
  | bare _ => .bare
  | window => .window
  | terminal _ => .terminal

def Keyboard.stopRequested : Keyboard → Bool
  | terminal typist => typist.typing.stopRequested
  | _ => false

namespace Launch

def dealings (calls : List HostCall) : List HostCall :=
  calls.filter HostCall.deals

def takes : Kind → List HostCall
  | .bare => []
  | .window => [.windowOpened]
  | .terminal => [.terminalOpened, .echoOff, .cbreakOn]

def gives : Kind → List HostCall
  | .bare => []
  | .window => [.windowClosed]
  | .terminal => [.cbreakOff, .echoOn, .terminalClosed]

def takesSound : Speaker.Kind → List HostCall
  | .mixer => [.mixerOpened]
  | _ => []

def givesSound : Speaker.Kind → List HostCall
  | .mixer => [.mixerClosed]
  | _ => []

def ends : Kind → List HostCall
  | .terminal => [.readerStopped]
  | _ => []

/-- Of what kind the devices of a world are, what it has taken and given back, and whether its
reader was asked to stop. -/
structure Tenure where
  display : Kind
  keyboard : Kind
  speaker : Speaker.Kind
  dealings : List HostCall
  stopRequested : Bool

@[simp] theorem dealings_append (earlier later : List HostCall) :
    dealings (earlier ++ later) = dealings earlier ++ dealings later :=
  List.filter_append earlier later

theorem filter_dealings {chosen : List HostCall} (deals : ∀ call ∈ chosen, call.deals = true)
    (calls : List HostCall) : (dealings calls).filter (· ∈ chosen) = calls.filter (· ∈ chosen) := by
  unfold dealings
  rw [List.filter_filter]
  refine List.filter_congr fun call _ => ?_
  by_cases inside : call ∈ chosen
  · simp [inside, deals call inside]
  · simp [inside]

theorem dealings_opening {opening : Opening} {script : Script} {display : Display}
    (opened : opening.display script = .ok display) :
    dealings (opening.calls script) = takes opening.kind ∧ display.kind = opening.kind ∧
      display.panel.shown = 0 := by
  unfold Opening.display at opened
  unfold Opening.calls
  cases kind : opening.kind with
  | bare =>
    rw [kind] at opened
    cases given : opening.scaleGiven <;> rw [given] at opened <;> cases opened <;>
      exact ⟨rfl, rfl, rfl⟩
  | window =>
    rw [kind] at opened
    cases sized : Window.width opening.scaleGiven with
    | error fault =>
      rw [sized] at opened
      cases opened
    | ok scale =>
      rw [sized] at opened
      cases coloured : Palette.ofOption opening.palette with
      | error fault =>
        rw [coloured] at opened
        cases opened
      | ok palette =>
        rw [coloured] at opened
        cases opened
        unfold Window.openingCalls
        rw [sized]
        exact ⟨rfl, rfl, rfl⟩
  | terminal =>
    rw [kind] at opened
    cases sized : Terminal.pixelWidth script.room opening.scaleGiven with
    | error fault =>
      rw [sized] at opened
      cases opened
    | ok scale =>
      rw [sized] at opened
      cases refused : opening.cursorFault script with
      | some fault =>
        rw [refused] at opened
        cases opened
      | none =>
        rw [refused] at opened
        cases opened
        exact ⟨rfl, rfl, rfl⟩

theorem dealings_closing (display : Display) :
    dealings display.closingCalls = gives display.kind := by
  cases display with
  | bare panel => rfl
  | window window => rfl
  | terminal terminal =>
    change dealings terminal.closingCalls = _
    unfold Terminal.closingCalls
    split <;> rfl

theorem dealings_openingSound (kind : Speaker.Kind) :
    dealings (Speaker.openingCalls kind) = takesSound kind := by
  cases kind <;> rfl

theorem dealings_closingSound (kind : Speaker.Kind) :
    dealings (Speaker.closingCalls kind) = givesSound kind := by
  cases kind <;> rfl

end Launch

namespace Display

open Launch

/-- A response that leaves a display of its kind, with calls that neither take nor give back. -/
structure Modest (kind : Kind) (response : Response Display) : Prop where
  kind : response.device.kind = kind
  calls : dealings response.calls = []

theorem dealings_changes (panel : Panel) (text : String) (last : Option (Array UInt8)) (k : Nat)
    (pixels : List UInt8) : dealings (Terminal.changes panel text last k pixels).1 = [] := by
  induction pixels generalizing k with
  | nil => rfl
  | cons pixel pixels ih =>
    unfold Terminal.changes
    cases Terminal.differs last k pixel with
    | error fault => rfl
    | ok differs =>
      cases differs with
      | false => exact ih (k + 1)
      | true =>
        cases written : Terminal.pixelCall panel text k pixel with
        | error fault => rfl
        | ok call =>
          unfold Terminal.pixelCall at written
          split at written
          · cases written
          · cases written
            exact ih (k + 1)

theorem modest_setResolution (display : Display) (room : Room) (width height : Int) :
    Modest display.kind (display.setResolution room width height) := by
  cases display with
  | bare panel => exact ⟨rfl, rfl⟩
  | window window =>
    unfold setResolution Window.setResolution
    dsimp only
    split <;> exact ⟨rfl, rfl⟩
  | terminal terminal => exact ⟨rfl, rfl⟩

theorem modest_setTitle (display : Display) (room : Room) (title : String) :
    Modest display.kind (display.setTitle room title) := by
  cases display with
  | bare panel => exact ⟨rfl, rfl⟩
  | window window => exact ⟨rfl, rfl⟩
  | terminal terminal =>
    unfold setTitle Terminal.setTitle
    dsimp only
    split
    · exact ⟨rfl, rfl⟩
    split
    · exact ⟨rfl, rfl⟩
    split <;> exact ⟨rfl, rfl⟩

theorem modest_presentWindow (shown : Window) (frame : Array UInt8) :
    Modest .window ((shown.present frame).map window) := by
  refine ⟨rfl, ?_⟩
  change dealings (shown.present frame).calls = []
  unfold Window.present
  cases shown.picture with
  | none => rfl
  | some picture =>
    dsimp only
    split
    · rfl
    · cases (Window.paint shown.palette picture 0 frame.toList).2 <;> rfl

theorem dealings_settle (shown : Terminal) (size : Int × Int) (resizes : Bool) :
    dealings (shown.settle size resizes).calls = [] := by
  unfold Terminal.settle
  split
  · split <;> rfl
  · cases resizes <;> rfl

theorem modest_presentTerminal (shown : Terminal) (frame : Array UInt8) (size : Int × Int)
    (resizes : Bool) : Modest .terminal ((shown.present frame size resizes).map terminal) := by
  have written : dealings (shown.write frame).calls = [] := by
    have changes := dealings_changes shown.panel (Terminal.pixelText shown.panel.scale) shown.last 0
      frame.toList
    unfold Terminal.write
    dsimp only
    split <;> exact changes
  refine ⟨rfl, ?_⟩
  change dealings (shown.present frame size resizes).calls = []
  unfold Terminal.present
  dsimp only
  split
  · exact written
  · rw [dealings_append, written, dealings_settle]
    rfl

theorem modest_present (display : Display) (frame : Array UInt8) (size : Int × Int)
    (resizes : Bool) : Modest display.kind (display.present frame size resizes) := by
  cases display with
  | bare panel => exact ⟨rfl, rfl⟩
  | window shown => exact modest_presentWindow shown frame
  | terminal shown => exact modest_presentTerminal shown frame size resizes

end Display

namespace Typing

theorem stopRequested_read (typing : Typing) (codes : List Int) :
    (typing.read codes).1.stopRequested = typing.stopRequested := by
  induction codes generalizing typing with
  | nil => rfl
  | cons code codes ih =>
    have received : (typing.look.receive code).1.stopRequested = typing.stopRequested :=
      stopRequested_receive typing.look code
    unfold read
    split
    · dsimp only
      split
      · exact received
      · split
        · rw [ih]
          exact (stopRequested_store _).trans received
        · exact (stopRequested_store _).trans received
    · rfl

theorem stopRequested_type (typing : Typing) (codes : List Int) :
    (typing.type codes).1.stopRequested = typing.stopRequested := by
  unfold type
  split
  · exact stopRequested_read typing codes
  · rfl

theorem stopRequested_drain (fuel : Nat) (typing : Typing) :
    (drain fuel typing).2.2.stopRequested = typing.stopRequested := by
  induction fuel generalizing typing with
  | zero => rfl
  | succ fuel ih =>
    unfold drain take
    cases typing.queue with
    | nil => rfl
    | cons entry rest =>
      cases entry with
      | quit => rfl
      | code value => exact (ih _).trans (stopRequested_store _)

end Typing

namespace World

open Launch

def tenure (world : World) : Tenure where
  display := world.display.kind
  keyboard := world.keyboard.kind
  speaker := world.speaker.kind
  dealings := dealings world.calls.toList
  stopRequested := world.keyboard.stopRequested

variable {given : Tenure} {world : World}

theorem dealings_record (world : World) (calls : List HostCall) :
    dealings (world.record calls).calls.toList =
      dealings world.calls.toList ++ dealings calls := by
  simp [record]

theorem stateAfter_answer (response : Response Display) (world : World) :
    stateAfter (answer response) world =
      { world with display := response.device }.record response.calls := by
  unfold stateAfter answer
  cases response.fault <;> rfl

theorem tenure_answer {response : Response Display} (world : World)
    (modest : Display.Modest world.display.kind response) :
    (stateAfter (answer response) world).tenure = world.tenure := by
  rw [stateAfter_answer]
  unfold tenure
  rw [dealings_record, modest.calls, List.append_nil]
  change Tenure.mk response.device.kind _ _ _ _ = _
  rw [modest.kind]
  rfl

theorem tenure_title (text : String) (world : World) :
    (stateAfter (title text) world).tenure = world.tenure :=
  tenure_answer { world with titles := world.titles.push text }
    (Display.modest_setTitle world.display world.script.room text)

theorem tenure_present (frame : Array UInt8) (world : World) :
    (stateAfter (present frame) world).tenure = world.tenure :=
  tenure_answer { world with script := { world.script with sizes := _ } }
    (Display.modest_present world.display frame world.nextSize world.script.resizes)

theorem tenure_tone (world : World) : (stateAfter tone world).tenure = world.tenure := by
  change tenure ({ world with speaker := world.speaker.play.device }.record
    world.speaker.play.calls) = _
  unfold tenure
  rw [dealings_record]
  have quiet : dealings world.speaker.play.calls = [] := by
    change dealings (Speaker.toneCalls world.speaker.kind) = []
    cases world.speaker.kind <;> rfl
  rw [quiet, List.append_nil]
  rfl

theorem tenure_now (world : World) : (stateAfter now world).tenure = world.tenure := by
  unfold stateAfter now
  cases Clock.read world.clock <;> rfl

theorem tenure_keyboard (world : World) {keyboard : Keyboard} (script : Script)
    (kind : keyboard.kind = world.keyboard.kind)
    (same : keyboard.stopRequested = world.keyboard.stopRequested) :
    { world with keyboard, script }.tenure = world.tenure := by
  unfold tenure
  rw [kind, same]

theorem stateAfter_typeNext {typist : Typist Float} (has : world.keyboard = .terminal typist) :
    stateAfter typeNext world = { world with
      keyboard := .terminal { typist with
        typing := (typist.typing.type (world.script.typed.headD [])).1 }
      script := { world.script with typed := world.script.typed.tail } } := by
  unfold stateAfter typeNext
  rw [has]
  dsimp only
  cases (typist.typing.type (world.script.typed.headD [])).2 with
  | none => rfl
  | some fault => cases threaded : world.script.threaded <;> rfl

theorem typeNext_of_windowed (has : ∀ typist, world.keyboard ≠ .terminal typist) :
    typeNext world = .ok () world := by
  unfold typeNext
  split
  · rename_i typist keyboard
    exact absurd keyboard (has typist)
  · rfl

theorem tenure_typeNext (world : World) : (stateAfter typeNext world).tenure = world.tenure := by
  by_cases has : ∃ typist, world.keyboard = .terminal typist
  · obtain ⟨typist, has⟩ := has
    rw [stateAfter_typeNext has]
    refine tenure_keyboard world _ ?_ ?_ <;> rw [has]
    · rfl
    · exact Typing.stopRequested_type typist.typing _
  · rw [stateAfter_of_ok (typeNext_of_windowed fun typist same => has ⟨typist, same⟩)]

theorem tenure_sleep (rest : Float) (world : World) :
    (stateAfter (sleep rest) world).tenure = world.tenure :=
  tenure_typeNext { world with
    clock := world.clock.slept rest
    sleeps := world.sleeps.push rest }

theorem tenure_poll (keypad : Keypad) (world : World) :
    (stateAfter (poll keypad) world).tenure = world.tenure := by
  unfold stateAfter poll
  cases has : world.keyboard with
  | bare patience =>
    match patience with
    | none | some 0 => rfl
    | some (n + 1) =>
      refine tenure_keyboard world world.script ?_ ?_ <;> rw [has] <;> rfl
  | window =>
    refine tenure_keyboard world _ ?_ ?_ <;> rw [has]
  | terminal typist =>
    refine tenure_keyboard world world.script ?_ ?_ <;> rw [has]
    · rfl
    change (typist.poll keypad world.clock.time
      (world.clock.time + holdTime)).2.2.typing.stopRequested = _
    rw [Typist.poll_typing]
    exact Typing.stopRequested_drain _ typist.typing

/-- What a launch holds of its host stays as it is throughout a run. -/
theorem tenure_invariant (given : Tenure) : host.Invariant fun world => world.tenure = given where
  now world holds := (tenure_now world).trans holds
  sleep rest world holds := (tenure_sleep rest world).trans holds
  poll keypad world holds := (tenure_poll keypad world).trans holds
  present picture world holds := (tenure_present picture world).trans holds
  title text world holds := (tenure_title text world).trans holds
  tone world holds := (tenure_tone world).trans holds

theorem attach_of_answer {P : World → Prop}
    (sized : P (stateAfter (answer (world.display.setResolution world.script.room 64 32)) world))
    (titled : Keeps P (title (Machine.speedTitle 0 0))) : P (stateAfter attach world) := by
  change P (stateAfter (answer (world.display.setResolution world.script.room 64 32) >>= fun _ =>
    title (Machine.speedTitle 0 0)) world)
  exact Keeps.followedBy sized fun _ => titled

theorem tenure_attach (world : World) : (stateAfter attach world).tenure = world.tenure := by
  have titled : Keeps (fun next : World => next.tenure = world.tenure)
      (title (Machine.speedTitle 0 0)) :=
    fun next holds => (tenure_title _ next).trans holds
  have sized := tenure_answer world
    (Display.modest_setResolution world.display world.script.room 64 32)
  exact attach_of_answer (P := fun next => next.tenure = world.tenure) sized titled

end World

end Chip8
