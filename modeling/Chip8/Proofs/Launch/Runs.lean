import Chip8.Proofs.Launch.Tenure

namespace Chip8

namespace Launch

def Foreign (fault : Option Fault) : Prop :=
  ∀ cause ∈ fault, ofProgram cause = false

theorem foreign_none : Foreign none := nofun

theorem foreign_some {fault : Fault} (foreign : ofProgram fault = false) :
    Foreign (some fault) := by
  rintro _ ⟨⟩
  exact foreign

end Launch

open Launch

theorem Seconds.foreign_ofParts {count : Int} {parts : Nat} {fault : Fault}
    (failed : ofParts count parts = .error fault) : ofProgram fault = false := by
  unfold ofParts at failed
  dsimp only at failed
  generalize (if count = 0 then 0.0 else ofQuotient count.natAbs parts) = size at failed
  split at failed
  · cases failed
    rfl
  · cases failed

theorem Clock.foreign_read {clock next : Clock} {fault : Fault}
    (failed : Clock.read clock = .error fault next) : ofProgram fault = false := by
  unfold Clock.read at failed
  dsimp only at failed
  split at failed
  · cases failed
    rfl
  · split at failed
    · rename_i cause refused
      cases failed
      exact Seconds.foreign_ofParts refused
    · cases failed

theorem Typing.foreign_receive (typing : Typing) (code : Int) :
    Foreign (typing.receive code).2 := by
  unfold receive
  split
  · exact foreign_none
  split
  · exact foreign_none
  split
  · exact foreign_none
  split <;> exact foreign_some rfl

theorem Typing.foreign_read (typing : Typing) (codes : List Int) :
    Foreign (typing.read codes).2 := by
  induction codes generalizing typing with
  | nil => exact foreign_none
  | cons code codes ih =>
    have received := foreign_receive typing.look code
    unfold read
    split
    · dsimp only
      split
      · rename_i failed
        rw [failed] at received
        exact received
      · split
        · exact ih _
        · exact foreign_none
    · exact foreign_none

theorem Terminal.foreign_changes (panel : Panel) (text : String) (last : Option (Array UInt8))
    (k : Nat) (pixels : List UInt8) : Foreign (changes panel text last k pixels).2 := by
  induction pixels generalizing k with
  | nil => exact foreign_none
  | cons pixel pixels ih =>
    unfold changes
    cases differing : differs last k pixel with
    | error fault =>
      unfold differs at differing
      split at differing
      · cases differing
      · split at differing
        · cases differing
          exact foreign_some rfl
        · cases differing
    | ok different =>
      cases different with
      | false => exact ih (k + 1)
      | true =>
        cases written : pixelCall panel text k pixel with
        | ok call => exact ih (k + 1)
        | error fault =>
          unfold pixelCall at written
          split at written
          · cases written
            exact foreign_some rfl
          · cases written

theorem Terminal.foreign_present (terminal : Terminal) (frame : Array UInt8) (size : Int × Int)
    (resizes : Bool) : Foreign (terminal.present frame size resizes).fault := by
  have written : Foreign (terminal.write frame).fault := by
    have changed := foreign_changes terminal.panel (pixelText terminal.panel.scale) terminal.last 0
      frame.toList
    unfold write
    dsimp only
    split
    · rename_i failed
      rw [failed] at changed
      exact changed
    · exact foreign_none
  unfold Terminal.present
  dsimp only
  split
  · exact written
  · exact foreign_none

theorem Window.foreign_paint (palette : Palette) (picture : Array Colour) (k : Nat)
    (pixels : List UInt8) : Foreign (paint palette picture k pixels).2 := by
  induction pixels generalizing picture k with
  | nil => exact foreign_none
  | cons pixel pixels ih =>
    unfold paint
    split
    · exact foreign_some rfl
    · exact ih _ _

theorem Window.foreign_present (window : Window) (frame : Array UInt8) :
    Foreign (window.present frame).fault := by
  unfold Window.present
  cases window.picture with
  | none => exact foreign_none
  | some picture =>
    have painted := foreign_paint window.palette picture 0 frame.toList
    dsimp only
    split
    · exact foreign_none
    · split
      · rename_i failed
        rw [failed] at painted
        exact painted
      · exact foreign_none

theorem Terminal.foreign_setTitle (terminal : Terminal) (room : Room) (title : String) :
    Foreign (terminal.setTitle room title).fault := by
  unfold setTitle
  dsimp only
  split
  · exact foreign_none
  split
  · exact foreign_some rfl
  split
  · exact foreign_some rfl
  · exact foreign_none

namespace Display

variable (display : Display)

theorem foreign_present (frame : Array UInt8) (size : Int × Int) (resizes : Bool) :
    Foreign (display.present frame size resizes).fault := by
  cases display with
  | bare panel => exact foreign_none
  | window window => exact window.foreign_present frame
  | terminal terminal => exact terminal.foreign_present frame size resizes

theorem foreign_setTitle (room : Room) (title : String) :
    Foreign (display.setTitle room title).fault := by
  cases display with
  | bare panel => exact foreign_none
  | window window => exact foreign_none
  | terminal terminal => exact terminal.foreign_setTitle room title

end Display

namespace World

variable {world next : World} {fault : Fault}

theorem fault_of_answer {response : Response Display}
    (failed : answer response world = .error fault next) : response.fault = some fault := by
  unfold answer at failed
  cases given : response.fault with
  | none =>
    rw [given] at failed
    cases failed
  | some cause =>
    rw [given] at failed
    cases failed
    rfl

theorem foreign_typeNext (failed : typeNext world = .error fault next) :
    ofProgram fault = false := by
  unfold typeNext at failed
  split at failed
  · rename_i typist keyboard
    have typed : Foreign (typist.typing.type (world.script.typed.headD [])).2 := by
      unfold Typing.type
      split
      · exact Typing.foreign_read _ _
      · exact foreign_none
    dsimp only at failed
    cases given : (typist.typing.type (world.script.typed.headD [])).2 with
    | none =>
      rw [given] at failed
      cases failed
    | some cause =>
      rw [given] at failed
      dsimp only at failed
      split at failed
      · cases failed
      · cases failed
        exact typed _ given
  · cases failed

theorem poll_ok (keypad : Keypad) (world : World) :
    ∃ answer next, poll keypad world = .ok answer next := by
  unfold poll
  split <;> exact ⟨_, _, rfl⟩

/-- Nothing that a world fails with is a fault of the emulated program. -/
theorem foreign_of_raises (raises : host.Raises fault) : ofProgram fault = false := by
  cases raises with
  | @now world next failed =>
    change now world = _ at failed
    unfold now at failed
    cases told : Clock.read world.clock with
    | ok time clock =>
      rw [told] at failed
      cases failed
    | error cause clock =>
      rw [told] at failed
      cases failed
      exact Clock.foreign_read told
  | sleep failed => exact foreign_typeNext failed
  | @poll keypad world next failed =>
    obtain ⟨answer, after, polled⟩ := poll_ok keypad world
    cases polled.symm.trans failed
  | present failed => exact Display.foreign_present _ _ _ _ _ (fault_of_answer failed)
  | title failed => exact Display.foreign_setTitle _ _ _ _ (fault_of_answer failed)
  | tone failed => cases failed

end World

theorem Clock.ok_of_read {clock next : Clock} {time : Float}
    (read : Clock.read clock = .ok time next) :
    clock.readings < clock.limit ∧ next.readings = clock.readings + 1 ∧
      next.limit = clock.limit := by
  unfold Clock.read at read
  dsimp only at read
  split at read
  · cases read
  · rename_i inside
    split at read
    · cases read
    · cases read
      exact ⟨Nat.lt_of_not_le inside, rfl, rfl⟩

namespace World

variable {world next : World} {readings limit : Nat}

/-- How often a clock has been read, and how often it can be. -/
def Clocked (readings limit : Nat) (world : World) : Prop :=
  world.clock.readings = readings ∧ world.clock.limit = limit

theorem clocked_of_now {time : Float} (clocked : world.Clocked readings limit)
    (read : now world = .ok time next) : next.Clocked (readings + 1) limit ∧ readings < limit := by
  obtain ⟨rfl, rfl⟩ := clocked
  unfold now at read
  cases told : Clock.read world.clock with
  | error fault clock =>
    rw [told] at read
    cases read
  | ok value clock =>
    rw [told] at read
    cases read
    obtain ⟨inside, counted, kept⟩ := Clock.ok_of_read told
    exact ⟨⟨counted, kept⟩, inside⟩

theorem clocked_answer (response : Response Display) (clocked : world.Clocked readings limit) :
    (stateAfter (answer response) world).Clocked readings limit := by
  rw [stateAfter_answer]
  exact clocked

theorem clocked_typeNext (clocked : world.Clocked readings limit) :
    (stateAfter typeNext world).Clocked readings limit := by
  by_cases has : ∃ typist, world.keyboard = .terminal typist
  · obtain ⟨typist, has⟩ := has
    rw [stateAfter_typeNext has]
    exact clocked
  · rw [stateAfter_of_ok (typeNext_of_windowed fun typist same => has ⟨typist, same⟩)]
    exact clocked

theorem clocked_sleep (rest : Float) : Keeps (Clocked readings limit) (sleep rest) :=
  fun _ clocked => clocked_typeNext clocked

theorem clocked_poll (keypad : Keypad) (clocked : world.Clocked readings limit) :
    (stateAfter (poll keypad) world).Clocked readings limit := by
  unfold stateAfter poll
  cases world.keyboard with
  | bare patience =>
    match patience with
    | none | some 0 | some (n + 1) => exact clocked
  | window | terminal typist => exact clocked

theorem clocked_steady (readings limit : Nat) : host.Steady (Clocked readings limit) where
  poll keypad _ clocked := clocked_poll keypad clocked
  present _ _ clocked := clocked_answer _ clocked
  title _ _ clocked := clocked_answer _ clocked
  tone _ clocked := clocked

open Machine

variable {start s t : Machine × World} {n : Nat} {pacing : Pacing Float} {fault : Fault}

theorem clocked_turn {next : Pacing Float} (clocked : s.2.Clocked readings limit)
    (done : turn host sixtyHertz pacing s = .ok (some next) t) :
    t.2.Clocked (readings + 2) limit ∧ readings + 2 ≤ limit := by
  have turned := turned host sixtyHertz pacing s
  rw [done] at turned
  -- Two readings in a turn, and none in what lies between them.
  have twice {now after : Float} {world later : World} {before : Pacing Float}
      {looked left : Machine × World} (read : host.now s.2 = .ok now world)
      (opened : beforeFrame host sixtyHertz pacing now (s.1, world) = .ok (false, before) looked)
      (framed : frame host looked = .ok () left) (late : host.now left.2 = .ok after later) :
      later.Clocked (readings + 2) limit ∧ readings + 2 ≤ limit := by
    have first := (clocked_of_now clocked read).1
    have second : looked.2.Clocked (readings + 1) limit :=
      (steadySession_of_host (clocked_steady _ _)).beforeFrame.of_ok opened first
    have third : left.2.Clocked (readings + 1) limit :=
      (steady_frame (clocked_steady _ _)).of_ok framed second
    exact clocked_of_now third late
  cases turned with
  | slept read opened framed late early slept =>
    obtain ⟨twiceRead, inside⟩ := twice read opened framed late
    exact ⟨(clocked_sleep _).of_ok slept twiceRead, inside⟩
  | hurried read opened framed late due => exact twice read opened framed late

/-- Every turn reads the clock twice, so there are fewer turns than the clock can be read. -/
theorem clocked_course (clocked : start.2.Clocked readings limit)
    (course : Course host sixtyHertz start n pacing s) :
    s.2.Clocked (readings + (2 * n + 1)) limit ∧ readings + (2 * n + 1) ≤ limit := by
  induction course with
  | begun read => exact clocked_of_now clocked read
  | turned before done ih => exact clocked_turn ih.1 done

theorem run_eq (start : Machine × World) :
    World.run none start = Machine.run host sixtyHertz (start.2.clock.limit + 1) none start := rfl

theorem lt_of_course (course : Course host sixtyHertz start n pacing s) :
    n < start.2.clock.limit + 1 := by
  have inside := (clocked_course ⟨rfl, rfl⟩ course).2
  omega

theorem quits_of_run {ending : Ending} (done : World.run none start = .ok ending t) :
    Quits host sixtyHertz start t := by
  rw [run_eq] at done
  by_cases whole : ending = .cutOff
  · -- A run that was cut off would have read the clock more often than it can be read.
    obtain ⟨n, ended⟩ := ended host sixtyHertz (start.2.clock.limit + 1) none start
    rw [whole] at done
    change Machine.run host sixtyHertz _ none start = _ at done
    rw [done] at ended
    cases ended with
    | cutOff course inside => exact absurd (lt_of_course course) (Nat.lt_irrefl _)
  · exact (Machine.quits_of_run done whole).2

theorem run_of_halts {m : Machine} (halts : Halts host sixtyHertz start m fault t) :
    World.run none start = .error fault t :=
  Machine.run_of_halts halts fun course => lt_of_course course

end World

end Chip8
