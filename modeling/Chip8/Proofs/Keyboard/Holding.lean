import Chip8.Keyboard.Typing
import Chip8.Proofs.Keyboard.Keymap
import Chip8.Proofs.Text.Lowercase
import Mathlib.Algebra.Order.Field.Rat
import Mathlib.Data.List.Induction
import Mathlib.Tactic.Linarith

namespace Chip8

structure Holding where
  typist : Typist ℚ
  keypad : Keypad
  /-- The codes that were taken since all keys were last released, each with the time of the look
  that took it. -/
  taken : List (ℚ × Nat)

namespace Holding

inductive Call where
  /-- The reader goes about its work, however it likes. -/
  | read (typing : Typing)
  | look (now : ℚ)
  | releaseAll

def Call.time? : Call → Option ℚ
  | look now => some now
  | _ => none

def start (keymap : Keymap) : Holding where
  typist := Typist.start
  keypad := Keypad.ofKeymap keymap
  taken := []

def look (hold now : ℚ) (s : Holding) : Bool × Holding :=
  let (quit, keypad, typist) := s.typist.poll s.keypad now (now + hold)
  (quit, { typist, keypad, taken := s.taken ++ s.typist.typing.takeAll.1.map (now, ·) })

def apply (hold : ℚ) (s : Holding) : Call → Holding
  | .read typing => { s with typist.typing := typing }
  | .look now => (s.look hold now).2
  | .releaseAll => { s with keypad := s.keypad.releaseAll, taken := [] }

def after (hold : ℚ) (calls : List Call) (s : Holding) : Holding :=
  calls.foldl (apply hold) s

/-- A code is of a character whose symbol, as it is compared, is that of a key. -/
def Types (keymap : Keymap) (code : Nat) (symbol : String) (key : Nibble) : Prop :=
  (∃ character, Typed.symbol? code = some character ∧ Text.lower character = symbol) ∧
    (symbol, key) ∈ keymap

end Holding

namespace Typist

variable {releases : List (String × ℚ)} {symbol other : String} {time due : ℚ}

theorem mem_hold : (other, due) ∈ hold releases symbol time ↔
    (other = symbol ∧ due = time) ∨ (other ≠ symbol ∧ (other, due) ∈ releases) := by
  unfold hold
  split
  · rename_i noted
    obtain ⟨⟨_, earlier⟩, member, same⟩ := List.any_eq_true.1 noted
    obtain rfl := beq_iff_eq.1 same
    rw [List.mem_map]
    constructor
    · rintro ⟨entry, member, changed⟩
      split at changed
      · cases changed
        exact .inl ⟨rfl, rfl⟩
      · rename_i apart
        rw [changed] at apart member
        exact .inr ⟨apart, member⟩
    · rintro (⟨rfl, rfl⟩ | ⟨apart, member⟩)
      · exact ⟨_, member, if_pos rfl⟩
      · exact ⟨_, member, if_neg apart⟩
  · rename_i unnoted
    have fresh : (other, due) ∈ releases → other ≠ symbol := by
      rintro member rfl
      exact unnoted (List.any_eq_true.2 ⟨_, member, beq_self_eq_true other⟩)
    rw [List.mem_append, List.mem_singleton, Prod.mk.injEq]
    tauto

theorem nodup_hold (once : (releases.map Prod.fst).Nodup) :
    ((hold releases symbol time).map Prod.fst).Nodup := by
  unfold hold
  split
  · have same : (releases.map fun entry => if entry.1 = symbol then (symbol, time) else entry).map
        Prod.fst = releases.map Prod.fst := by
      rw [List.map_map]
      refine List.map_congr_left fun entry _ => ?_
      simp only [Function.comp_apply]
      split
      · rename_i own
        exact own.symm
      · rfl
    rwa [same]
  · rename_i unnoted
    rw [List.map_append, List.nodup_append]
    refine ⟨once, List.nodup_singleton _, ?_⟩
    intro old before new last same
    obtain ⟨entry, member, rfl⟩ := List.mem_map.1 before
    have own : entry.1 = symbol := same.trans (List.mem_singleton.1 last)
    exact unnoted (List.any_eq_true.2 ⟨entry, member, beq_iff_eq.2 own⟩)

theorem get_latch_released (released : List (String × ℚ)) (keypad : Keypad) (key : Nibble) :
    (released.foldl (fun keypad entry => keypad.set entry.1 false) keypad).latch.get key = true ↔
      keypad.latch.get key = true ∧ ∀ entry ∈ released, keypad.keymap.key? entry.1 ≠ some key := by
  induction released generalizing keypad with
  | nil => simp
  | cons entry released ih =>
    rw [List.foldl_cons, ih, Keypad.keymap_set, Keypad.get_latch_set]
    split
    · rename_i own
      simp [own]
    · rename_i other
      simp [other]

theorem keymap_released (released : List (String × ℚ)) (keypad : Keypad) :
    (released.foldl (fun keypad entry => keypad.set entry.1 false) keypad).keymap =
      keypad.keymap := by
  induction released generalizing keypad with
  | nil => rfl
  | cons entry released ih => rw [List.foldl_cons, ih, Keypad.keymap_set]

end Typist

namespace Holding

/-- What the latch and the notes have to do with what was taken up to the last look: a key that is
down was pressed by a character of which there is a note, and one that a character holds longer than
that is down, and noted no earlier. -/
structure Holds (keymap : Keymap) (hold last : ℚ) (keypad : Keypad) (releases : List (String × ℚ))
    (taken : List (ℚ × Nat)) : Prop where
  layout : keypad.keymap = keymap
  once : (releases.map Prod.fst).Nodup
  lowered : ∀ entry ∈ releases, Text.lower entry.1 = entry.1
  past : ∀ entry ∈ taken, entry.1 ≤ last
  down : ∀ key, keypad.latch.get key = true → ∃ time code symbol, (time, code) ∈ taken ∧
    Types keymap code symbol key ∧ (symbol, time + hold) ∈ releases
  held : ∀ time code symbol key, (time, code) ∈ taken → Types keymap code symbol key →
    last < time + hold →
      keypad.latch.get key = true ∧ ∃ due, (symbol, due) ∈ releases ∧ time + hold ≤ due

variable {keymap : Keymap} {hold last now : ℚ} {keypad : Keypad} {releases : List (String × ℚ)}
variable {taken : List (ℚ × Nat)} {code : Nat} {character symbol : String} {key : Nibble}

theorem Types.lower (types : Types keymap code symbol key) : Text.lower symbol = symbol := by
  obtain ⟨⟨character, given, rfl⟩, -⟩ := types
  unfold Typed.symbol? at given
  split at given
  · cases given
    exact Text.lower_lower_singleton _
  · cases given

theorem Types.unique {other : String} {otherKey : Nibble} (proper : keymap.Proper)
    (one : Types keymap code symbol key) (two : Types keymap code other otherKey) :
    other = symbol ∧ otherKey = key := by
  obtain ⟨⟨character, given, rfl⟩, known⟩ := one
  obtain ⟨⟨_, also, rfl⟩, alsoKnown⟩ := two
  cases given.symm.trans also
  exact ⟨rfl, proper.key_eq known alsoKnown⟩

namespace Holds

theorem later (holds : Holds keymap hold last keypad releases taken) (later : last ≤ now) :
    Holds keymap hold now keypad releases taken where
  layout := holds.layout
  once := holds.once
  lowered := holds.lowered
  past entry member := (holds.past entry member).trans later
  down := holds.down
  held time code symbol key member types longer :=
    holds.held time code symbol key member types (later.trans_lt longer)

theorem releaseAll (holds : Holds keymap hold last keypad releases taken) :
    Holds keymap hold last keypad.releaseAll releases [] where
  layout := holds.layout
  once := holds.once
  lowered := holds.lowered
  past := nofun
  down key down := by cases (Latch.get_released key).symm.trans down
  held := nofun

theorem past_taken (holds : Holds keymap hold now keypad releases taken) (code : Nat) :
    ∀ entry ∈ taken ++ [(now, code)], entry.1 ≤ now := by
  intro entry member
  rcases List.mem_append.1 member with earlier | last
  · exact holds.past entry earlier
  · rw [List.mem_singleton.1 last]

theorem ignored (holds : Holds keymap hold now keypad releases taken)
    (keyless : ∀ symbol key, ¬ Types keymap code symbol key) :
    Holds keymap hold now keypad releases (taken ++ [(now, code)]) where
  layout := holds.layout
  once := holds.once
  lowered := holds.lowered
  past := holds.past_taken code
  down key down := by
    obtain ⟨time, code, symbol, member, rest⟩ := holds.down key down
    exact ⟨time, code, symbol, List.mem_append_left _ member, rest⟩
  held time code symbol key member types longer := by
    rcases List.mem_append.1 member with earlier | last
    · exact holds.held time code symbol key earlier types longer
    · cases List.mem_singleton.1 last
      exact absurd types (keyless symbol key)

theorem pressed (holds : Holds keymap hold now keypad releases taken) (proper : keymap.Proper)
    (given : Typed.symbol? code = some character) (known : (Text.lower character, key) ∈ keymap) :
    Holds keymap hold now (keypad.set character true)
      (Typist.hold releases (Text.lower character) (now + hold)) (taken ++ [(now, code)]) := by
  have own : Types keymap code (Text.lower character) key := ⟨⟨character, given, rfl⟩, known⟩
  have layout := holds.layout
  have set (other : Nibble) : (keypad.set character true).latch.get other = true ↔
      other = key ∨ keypad.latch.get other = true := by
    rw [Keypad.get_latch_set, layout, proper.key?_eq_some_iff.2 known]
    split
    · rename_i same
      cases same
      simp
    · rename_i apart
      have others : other ≠ key := fun same => apart (congrArg some same.symm)
      simp [others]
  constructor
  · rw [Keypad.keymap_set, layout]
  · exact Typist.nodup_hold holds.once
  · rintro ⟨symbol, due⟩ noted
    rcases Typist.mem_hold.1 noted with ⟨rfl, -⟩ | ⟨-, earlier⟩
    · exact own.lower
    · exact holds.lowered _ earlier
  · exact holds.past_taken code
  · intro other down
    -- Other keys keep their notes, since no two keys have one symbol.
    by_cases same : other = key
    · exact ⟨now, code, _, List.mem_append_right _ (.head _), same ▸ own,
        Typist.mem_hold.2 (.inl ⟨rfl, rfl⟩)⟩
    · obtain ⟨time, earlier, symbol, member, types, noted⟩ :=
        holds.down other (((set other).1 down).resolve_left same)
      have apart : symbol ≠ Text.lower character := by
        rintro rfl
        exact same (proper.key_eq known types.2)
      exact ⟨time, earlier, symbol, List.mem_append_left _ member, types,
        Typist.mem_hold.2 (.inr ⟨apart, noted⟩)⟩
  · intro time earlier symbol other member types longer
    rcases List.mem_append.1 member with before | last
    · obtain ⟨down, due, noted, late⟩ := holds.held time earlier symbol other before types longer
      refine ⟨(set other).2 (.inr down), ?_⟩
      by_cases same : symbol = Text.lower character
      · have past : time ≤ now := holds.past _ before
        exact ⟨now + hold, Typist.mem_hold.2 (.inl ⟨same, rfl⟩), by linarith⟩
      · exact ⟨due, Typist.mem_hold.2 (.inr ⟨same, noted⟩), late⟩
    · cases List.mem_singleton.1 last
      obtain ⟨rfl, rfl⟩ := own.unique proper types
      exact ⟨(set other).2 (.inl rfl), now + hold, Typist.mem_hold.2 (.inl ⟨rfl, rfl⟩), le_rfl⟩

theorem press (holds : Holds keymap hold now keypad releases taken) (proper : keymap.Proper)
    (code : Nat) :
    let held := Typist.press (now + hold) (keypad, releases) code
    Holds keymap hold now held.1 held.2 (taken ++ [(now, code)]) := by
  have layout := holds.layout
  cases given : Typed.symbol? code with
  | none =>
    simp only [Typist.press, given]
    refine holds.ignored ?_
    rintro symbol key ⟨⟨character, also, -⟩, -⟩
    cases given.symm.trans also
  | some character =>
    cases found : keymap.key? character with
    | none =>
      simp only [Typist.press, given, layout, found]
      refine holds.ignored ?_
      rintro symbol key ⟨⟨_, also, rfl⟩, known⟩
      cases given.symm.trans also
      cases found.symm.trans (proper.key?_eq_some_iff.2 known)
    | some key =>
      simp only [Typist.press, given, layout, found]
      exact holds.pressed proper given (proper.key?_eq_some_iff.1 found)

theorem pressAll (holds : Holds keymap hold now keypad releases taken) (proper : keymap.Proper)
    (codes : List Nat) :
    let held := codes.foldl (Typist.press (now + hold)) (keypad, releases)
    Holds keymap hold now held.1 held.2 (taken ++ codes.map (now, ·)) := by
  induction codes generalizing keypad releases taken with
  | nil => simpa using holds
  | cons code codes ih =>
    have rest := ih (holds.press proper code)
    rw [List.map_cons, List.append_cons]
    exact rest

theorem released (holds : Holds keymap hold now keypad releases taken) (proper : keymap.Proper)
    (typing : Typing) :
    let left := Typist.releaseDue { typing, releases } keypad now
    Holds keymap hold now left.1 left.2.releases taken ∧
      ∀ entry ∈ left.2.releases, now < entry.2 := by
  have layout := holds.layout
  have late (entry : String × ℚ) :
      entry ∈ releases.filter (fun entry => ¬ entry.2 ≤ now) ↔
        entry ∈ releases ∧ now < entry.2 := by
    rw [List.mem_filter, decide_eq_true_eq, not_le]
  -- A key is released if and only if a note of its symbol, and not of another, is due.
  have released (symbol : String) (key : Nibble) (known : (symbol, key) ∈ keymap)
      (lower : Text.lower symbol = symbol) :
      (∀ entry ∈ releases.filter (fun entry => entry.2 ≤ now),
        keypad.keymap.key? entry.1 ≠ some key) ↔ ∀ due, (symbol, due) ∈ releases → now < due := by
    rw [layout]
    constructor
    · intro kept due noted
      by_contra early
      have ended : (symbol, due) ∈ releases.filter fun entry => entry.2 ≤ now :=
        List.mem_filter.2 ⟨noted, decide_eq_true (not_lt.1 early)⟩
      exact kept _ ended (proper.key?_eq_some_iff.2 (lower.symm ▸ known))
    · intro all entry member found
      obtain ⟨noted, early⟩ := List.mem_filter.1 member
      have own := proper.key?_eq_some_iff.1 found
      rw [holds.lowered entry noted] at own
      obtain rfl := proper.symbol_eq known own
      exact not_lt.2 (of_decide_eq_true early) (all entry.2 noted)
  refine ⟨⟨?_, ?_, ?_, holds.past, ?_, ?_⟩, fun entry member => ((late entry).1 member).2⟩
  · exact (Typist.keymap_released _ keypad).trans layout
  · exact holds.once.sublist (List.filter_sublist.map Prod.fst)
  · exact fun entry member => holds.lowered entry ((late entry).1 member).1
  · intro key down
    obtain ⟨before, kept⟩ := (Typist.get_latch_released _ keypad key).1 down
    obtain ⟨time, code, symbol, member, types, noted⟩ := holds.down key before
    have longer := (released symbol key types.2 types.lower).1 kept _ noted
    exact ⟨time, code, symbol, member, types, (late _).2 ⟨noted, longer⟩⟩
  · intro time code symbol key member types longer
    obtain ⟨before, due, noted, most⟩ := holds.held time code symbol key member types longer
    have all : ∀ other, (symbol, other) ∈ releases → now < other := by
      intro other also
      obtain rfl : other = due :=
        congrArg Prod.snd (List.inj_on_of_nodup_map holds.once also noted rfl)
      exact longer.trans_le most
    exact ⟨(Typist.get_latch_released _ keypad key).2
        ⟨before, (released symbol key types.2 types.lower).2 all⟩,
      due, (late _).2 ⟨noted, longer.trans_le most⟩, most⟩

theorem look {s : Holding} (holds : Holds keymap hold now s.keypad s.typist.releases s.taken)
    (proper : keymap.Proper) :
    let looked := s.look hold now
    Holds keymap hold now looked.2.keypad looked.2.typist.releases looked.2.taken ∧
      (looked.1 = false → ∀ entry ∈ looked.2.typist.releases, now < entry.2) := by
  have pressed := holds.pressAll proper s.typist.typing.takeAll.1
  unfold Holding.look Typist.poll
  dsimp only
  cases s.typist.typing.takeAll.2.1 with
  | true => exact ⟨pressed, nofun⟩
  | false =>
    obtain ⟨released, later⟩ := pressed.released proper s.typist.typing.takeAll.2.2
    exact ⟨released, fun _ => later⟩

end Holds

theorem holds_start (keymap : Keymap) (hold last : ℚ) :
    Holds keymap hold last (start keymap).keypad (start keymap).typist.releases
      (start keymap).taken where
  layout := rfl
  once := .nil
  lowered := nofun
  past := nofun
  down key down := by cases (Latch.get_released key).symm.trans down
  held := nofun

theorem holds_after (proper : keymap.Proper) (hold : ℚ) (calls : List Call)
    (ordered : (calls.filterMap Call.time?).Pairwise (· ≤ ·))
    (past : ∀ time ∈ calls.filterMap Call.time?, time ≤ last) :
    let s := (start keymap).after hold calls
    Holds keymap hold last s.keypad s.typist.releases s.taken := by
  induction calls using List.reverseRecOn generalizing last with
  | nil => exact holds_start keymap hold last
  | append_singleton calls call ih =>
    rw [List.filterMap_append] at ordered past
    obtain ⟨before, -, apart⟩ := List.pairwise_append.1 ordered
    have earlier (time : ℚ) (member : time ∈ calls.filterMap Call.time?) : time ≤ last :=
      past time (List.mem_append_left _ member)
    unfold after
    rw [List.foldl_append]
    cases call with
    | read typing => exact ih before earlier
    | releaseAll => exact (ih before earlier).releaseAll
    | look now =>
      have looked := ih before fun time member => apart time member now (.head _)
      exact (looked.look proper).1.later (past now (List.mem_append_right _ (.head _)))

/-- Whatever is typed between the looks for keys, on a clock that does not go back: after a look
that finds no wish to quit, a key is down if and only if a character whose lower-case form is the
symbol of the key was taken since all keys were last released, by a look that is not as long ago as
a key is held. -/
theorem look_down_iff_taken {text : String} (accepted : Keymap.parse text = .ok keymap) (hold : ℚ)
    (calls : List Call) (now : ℚ)
    (ordered : (calls.filterMap Call.time? ++ [now]).Pairwise (· ≤ ·)) :
    let looked := ((start keymap).after hold calls).look hold now
    looked.1 = false → ∀ key : Nibble, looked.2.keypad.latch.get key = true ↔
      ∃ time code character, (time, code) ∈ looked.2.taken ∧ now < time + hold ∧
        Typed.symbol? code = some character ∧ (Text.lower character, key) ∈ keymap := by
  have proper := Keymap.proper_of_parse accepted
  obtain ⟨before, -, apart⟩ := List.pairwise_append.1 ordered
  have begun := holds_after proper hold calls before fun time member =>
    apart time member now (.head _)
  intro looked goesOn key
  obtain ⟨holds, later⟩ := begun.look proper
  constructor
  · intro down
    obtain ⟨time, code, _, member, ⟨⟨character, given, rfl⟩, known⟩, noted⟩ := holds.down key down
    exact ⟨time, code, character, member, later goesOn _ noted, given, known⟩
  · rintro ⟨time, code, character, member, longer, given, known⟩
    exact (holds.held time code _ key member ⟨⟨character, given, rfl⟩, known⟩ longer).1

def leftKeys : Keymap :=
  ["x", "1", "2", "3", "q", "w", "e", "a", "s", "d", "z", "c", "4", "r", "f", "v"].zip
    (List.finRange 16)

def queued (codes : List Nat) : Typing :=
  { Typing.start with queue := codes.map .code }

def retyped : List Call :=
  [.read (queued [49]), .look 0, .releaseAll, .read (queued [113]), .look (1 / 20),
   .read (queued [81, 120]), .look (1 / 10)]

theorem look_down_iff_taken_retyped :
    let looked := ((start leftKeys).after (1 / 5) retyped).look (1 / 5) (27 / 100)
    Keymap.parse Keymap.standard = .ok leftKeys ∧
      (retyped.filterMap Call.time? ++ [27 / 100]).Pairwise (· ≤ ·) ∧ looked.1 = false ∧
      looked.2.taken = [(1 / 20, 113), (1 / 10, 81), (1 / 10, 120)] ∧
      looked.2.keypad.latch.get 4 = true ∧ looked.2.keypad.latch.get 1 = false := by
  intro looked
  have accepted : Keymap.parse Keymap.standard = .ok leftKeys := by decide +kernel
  have ordered : (retyped.filterMap Call.time? ++ [27 / 100]).Pairwise (· ≤ ·) := by decide +kernel
  have goesOn : looked.1 = false := by decide +kernel
  have taken : looked.2.taken = [(1 / 20, 113), (1 / 10, 81), (1 / 10, 120)] := by decide +kernel
  have again : (1 / 10, 81) ∈ looked.2.taken := by
    rw [taken]
    exact .tail _ (.head _)
  have down := look_down_iff_taken accepted (1 / 5) retyped (27 / 100) ordered goesOn
  refine ⟨accepted, ordered, goesOn, taken, (down 4).2 ?_, ?_⟩
  · exact ⟨1 / 10, 81, "Q", again, by norm_num, by decide +kernel, by decide +kernel⟩
  · decide +kernel

end Holding

end Chip8
