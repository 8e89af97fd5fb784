import Chip8.Keyboard.Event
import Chip8.Proofs.Keyboard.Keymap

namespace Chip8

namespace KeyEvent

open Keymap (symbols)

/-- What is done with events at a keypad: those that are pending are worked through, or all keys are
released. -/
inductive Call where
  | pending (events : List KeyEvent)
  | releaseAll

def Call.apply (keypad : Keypad) : Call → Keypad
  | pending events => (applyAll events keypad).2
  | releaseAll => keypad.releaseAll

def after (calls : List Call) (keypad : Keypad) : Keypad :=
  calls.foldl Call.apply keypad

def Call.add (events : List KeyEvent) : Call → List KeyEvent
  | pending more => events ++ more
  | releaseAll => []

def since (calls : List Call) : List KeyEvent :=
  calls.foldl Call.add []

/-- An event presses or releases a key, with `text` telling the symbols of the keys. -/
def Concerns (text : String) (key : Nibble) : KeyEvent → Prop
  | down pressed => (symbols text)[key.val]? = some (Text.lower pressed.name)
  | up released =>
    released.code ≠ escapeCode ∧ (symbols text)[key.val]? = some (Text.lower released.name)
  | _ => False

instance (text : String) (key : Nibble) : (event : KeyEvent) → Decidable (Concerns text key event)
  | down _ => inferInstanceAs (Decidable (_ = _))
  | up _ => inferInstanceAs (Decidable (_ ∧ _))
  | quit => inferInstanceAs (Decidable False)
  | other => inferInstanceAs (Decidable False)

/-- The last event that concerns a key presses it. -/
def Leaves (text : String) (key : Nibble) (events : List KeyEvent) : Prop :=
  ∃ before pressed later, events = before ++ down pressed :: later ∧
    Concerns text key (down pressed) ∧ ∀ event ∈ later, ¬ Concerns text key event

variable {text : String} {key : Nibble} {events : List KeyEvent} {event : KeyEvent}
variable {keypad : Keypad}

theorem not_leaves_nil : ¬ Leaves text key [] := by
  rintro ⟨before, pressed, later, empty, -⟩
  simp at empty

theorem leaves_concat_of_concerns (concerns : Concerns text key event) :
    Leaves text key (events ++ [event]) ↔ ∃ pressed, event = down pressed := by
  constructor
  · rintro ⟨before, pressed, later, same, -, quiet⟩
    rcases later.eq_nil_or_concat with rfl | ⟨later, last, rfl⟩
    · exact ⟨pressed, (List.append_inj_right' same rfl |> List.singleton_inj.1)⟩
    · rw [List.concat_eq_append, ← List.cons_append, ← List.append_assoc] at same
      obtain rfl := List.singleton_inj.1 (List.append_inj_right' same rfl)
      exact absurd concerns (quiet event (by simp))
  · rintro ⟨pressed, rfl⟩
    exact ⟨events, pressed, [], rfl, concerns, by simp⟩

theorem leaves_concat_of_not_concerns (idle : ¬ Concerns text key event) :
    Leaves text key (events ++ [event]) ↔ Leaves text key events := by
  constructor
  · rintro ⟨before, pressed, later, same, presses, quiet⟩
    rcases later.eq_nil_or_concat with rfl | ⟨later, last, rfl⟩
    · obtain rfl := List.singleton_inj.1 (List.append_inj_right' same rfl)
      exact absurd presses idle
    · rw [List.concat_eq_append, ← List.cons_append, ← List.append_assoc] at same
      exact ⟨before, pressed, later, List.append_inj_left' same rfl, presses,
        fun one member => quiet one (by simp [member])⟩
  · rintro ⟨before, pressed, later, rfl, presses, quiet⟩
    refine ⟨before, pressed, later ++ [event], by simp, presses, fun one member => ?_⟩
    rcases List.mem_append.1 member with earlier | last
    · exact quiet one earlier
    · exact List.mem_singleton.1 last ▸ idle

structure Reflects (text : String) (events : List KeyEvent) (keypad : Keypad) : Prop where
  accepted : Keymap.parse text = .ok keypad.keymap
  down : ∀ key, keypad.latch.get key = true ↔ Leaves text key events

theorem keymap_apply : (apply keypad event).keymap = keypad.keymap := by
  cases event with
  | up released =>
    simp only [apply]
    split
    · rfl
    · exact Keypad.keymap_set
  | down pressed => exact Keypad.keymap_set
  | quit => rfl
  | other => rfl

theorem get_apply (accepted : Keymap.parse text = .ok keypad.keymap) :
    (apply keypad event).latch.get key = true ↔
      (Concerns text key event ∧ ∃ pressed, event = .down pressed) ∨
        ¬ Concerns text key event ∧ keypad.latch.get key = true := by
  cases event with
  | down pressed =>
    by_cases found : keypad.keymap.key? pressed.name = some key
    · have concerns := (Keymap.key?_eq_some_iff accepted).1 found
      simp [apply, Keypad.get_latch_set, found, Concerns, concerns]
    · have idle := mt (Keymap.key?_eq_some_iff accepted).2 found
      simp [apply, Keypad.get_latch_set, found, Concerns, idle]
  | up released =>
    by_cases escape : released.code = escapeCode
    · simp [apply, escape, Concerns]
    · by_cases found : keypad.keymap.key? released.name = some key
      · have concerns := (Keymap.key?_eq_some_iff accepted).1 found
        simp [apply, escape, Keypad.get_latch_set, found, Concerns, concerns]
      · have idle := mt (Keymap.key?_eq_some_iff accepted).2 found
        simp [apply, escape, Keypad.get_latch_set, found, Concerns, idle]
  | quit => simp [apply, Concerns]
  | other => simp [apply, Concerns]

theorem Reflects.apply (reflects : Reflects text events keypad) (event : KeyEvent) :
    Reflects text (events ++ [event]) (apply keypad event) where
  accepted := by rw [keymap_apply, reflects.accepted]
  down key := by
    rw [get_apply reflects.accepted, reflects.down key]
    by_cases concerns : Concerns text key event
    · simp [leaves_concat_of_concerns concerns, concerns]
    · simp [leaves_concat_of_not_concerns concerns, concerns]

theorem Reflects.foldl (reflects : Reflects text events keypad) (more : List KeyEvent) :
    Reflects text (events ++ more) (more.foldl KeyEvent.apply keypad) := by
  induction more generalizing events keypad with
  | nil => simpa using reflects
  | cons event more ih => simpa using ih (reflects.apply event)

theorem reflects_released (accepted : Keymap.parse text = .ok keypad.keymap)
    (released : keypad.latch = Latch.released) : Reflects text [] keypad where
  accepted := accepted
  down key := by simp [released, Latch.get_released, not_leaves_nil]

theorem Reflects.call (reflects : Reflects text events keypad) (call : Call) :
    Reflects text (call.add events) (call.apply keypad) := by
  cases call with
  | pending more => exact reflects.foldl more
  | releaseAll => exact reflects_released reflects.accepted rfl

theorem Reflects.after (reflects : Reflects text events keypad) (calls : List Call) :
    Reflects text (calls.foldl Call.add events) (after calls keypad) := by
  induction calls generalizing events keypad with
  | nil => exact reflects
  | cons call calls ih => exact ih (reflects.call call)

theorem any_asksToQuit_iff : events.any asksToQuit = true ↔
    .quit ∈ events ∨ ∃ released, .up released ∈ events ∧ released.code = escapeCode := by
  rw [List.any_eq_true]
  constructor
  · rintro ⟨event, member, asks⟩
    cases event with
    | up released => exact .inr ⟨released, member, eq_of_beq asks⟩
    | quit => exact .inl member
    | down _ => cases asks
    | other => cases asks
  · rintro (quits | ⟨released, member, escape⟩)
    · exact ⟨_, quits, rfl⟩
    · exact ⟨_, member, beq_of_eq escape⟩

def Bystands : KeyEvent → Prop
  | down _ => False
  | up released => released.code = escapeCode
  | quit => True
  | other => True

theorem apply_bystander (bystands : Bystands event) : apply keypad event = keypad := by
  cases event with
  | down pressed => exact bystands.elim
  | up released => exact if_pos bystands
  | quit => rfl
  | other => rfl

theorem applyAll_bystander (bystands : Bystands event) (before later : List KeyEvent) :
    (applyAll (before ++ event :: later) keypad).2 = (applyAll (before ++ later) keypad).2 := by
  simp only [applyAll, List.foldl_append, List.foldl_cons, apply_bystander bystands]

/-- Whatever events are worked through, and whenever all keys are released: the keys that are down
are those that the events since the last release leave down. Events ask to quit if the window was
closed or the escape key let go, and the others count as if these were not among them. -/
theorem latch_after (text : String) (keymap : Keymap) (calls : List Call)
    (accepted : Keymap.parse text = .ok keymap) :
    let keypad := after calls (Keypad.ofKeymap keymap)
    (∀ key, keypad.latch.get key = true ↔ Leaves text key (since calls)) ∧
      (∀ events, (applyAll events keypad).1 = true ↔
        .quit ∈ events ∨ ∃ released, .up released ∈ events ∧ released.code = escapeCode) ∧
      (∀ event, Bystands event → apply keypad event = keypad ∧ ∀ before later,
        (applyAll (before ++ event :: later) keypad).2 = (applyAll (before ++ later) keypad).2) ∧
      (∀ (code : Int) (key : Nibble), (key.val : Int) = code % 16 →
        keypad.latch.isDown code = keypad.latch.get key) ∧
      (∀ key, keypad.latch.firstDown = some key ↔
        keypad.latch.get key = true ∧ ∀ lower < key, keypad.latch.get lower = false) ∧
      (keypad.latch.firstDown = none ↔ ∀ key, keypad.latch.get key = false) := by
  have start : Reflects text [] (Keypad.ofKeymap keymap) := reflects_released accepted rfl
  exact ⟨(start.after calls).down, fun _ => any_asksToQuit_iff,
    fun _ bystands => ⟨apply_bystander bystands, applyAll_bystander bystands⟩,
    fun _ _ low => Latch.isDown_eq_get low, fun _ => Latch.firstDown_eq_some_iff,
    Latch.firstDown_eq_none_iff⟩

def escape : WindowKey := ⟨27, "escape"⟩

def one : WindowKey := ⟨49, "1"⟩

def letterQ : WindowKey := ⟨113, "Q"⟩

def letterW : WindowKey := ⟨119, "w"⟩

def retyped : List Call :=
  [.pending [.down letterW], .releaseAll, .pending [.down one, .up escape, .down letterQ],
    .pending [.up one, .other]]

theorem latch_after_retyped :
    let keymap := Keymap.entries 0 (symbols Keymap.standard)
    let keypad := after retyped (Keypad.ofKeymap keymap)
    Keymap.parse Keymap.standard = .ok keymap ∧ keypad.latch.get 4 = true ∧
      keypad.latch.isDown (-12) = true ∧ keypad.latch.firstDown = some 4 ∧
      (applyAll [.up escape, .down letterW] keypad).1 = true := by
  intro keymap keypad
  have accepted : Keymap.parse Keymap.standard = .ok keymap := by decide +kernel
  obtain ⟨down, quits, -, flag, first, -⟩ :=
    latch_after Keymap.standard keymap retyped accepted
  have four : keypad.latch.get 4 = true := by
    refine (down 4).2 ⟨[.down one, .up escape], letterQ, [.up one, .other], rfl, ?_, ?_⟩ <;>
      decide +kernel
  refine ⟨accepted, four, (flag (-12) 4 (by decide)).trans four, (first 4).2 ⟨four, ?_⟩,
    (quits _).2 (.inr ⟨escape, by decide, rfl⟩)⟩
  decide +kernel

end KeyEvent

end Chip8
