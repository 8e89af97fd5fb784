import Chip8.Keyboard.Typing
import Mathlib.Data.List.TakeWhile

namespace Chip8

/-- A move of the reader or of the run. One that is not possible when it is made changes nothing. -/
inductive Move where
  /-- The reader looks whether it was asked to stop. -/
  | look
  | receive (code : Int)
  /-- The reader puts what it holds into the queue, or goes on waiting for room. -/
  | put
  | attend
  | take
  | requestStop
deriving DecidableEq, Repr

def Move.code? : Move → Option Int
  | receive code => some code
  | _ => none

structure Interplay where
  typing : Typing
  /-- What the run has taken since it began to look for keys, if it is still looking. -/
  current : Option (List Typed)
  received : List Int
  /-- The entries that were put, each with the number of entries it found in the queue. -/
  puts : List (Typed × Nat)
  taken : List Typed
  /-- What was taken by each look for keys that is over, and whether it told of a wish to quit. -/
  looks : List (List Typed × Bool)
deriving DecidableEq, Repr

namespace Typing

def held (typing : Typing) : List Typed :=
  match typing.reader with
  | .holding entry => [entry]
  | _ => []

/-- The entry that the reader puts if it is its move, with the length of the queue. A wish to quit
waits for room. -/
def offer (typing : Typing) : List (Typed × Nat) :=
  match typing.reader with
  | .holding .quit =>
    if typing.queue.length < capacity then [(.quit, typing.queue.length)] else []
  | .holding (.code value) => [(.code value, typing.queue.length)]
  | _ => []

/-- The characters among some codes, up to the first code that asks to quit. -/
def characters (codes : List Int) : List Typed :=
  ((codes.takeWhile (· ∉ quitCodes)).filter (0 ≤ ·)).map (.code ·.toNat)

def entries (codes : List Int) : List Typed :=
  characters codes ++ if ∃ code ∈ codes, code ∈ quitCodes then [.quit] else []

end Typing

namespace Interplay

open Typing

def start : Interplay where
  typing := Typing.start
  current := none
  received := []
  puts := []
  taken := []
  looks := []

def look (s : Interplay) : Interplay :=
  match s.typing.reader with
  | .looking => { s with typing := s.typing.look }
  | _ => s

def receive (code : Int) (s : Interplay) : Interplay :=
  match s.typing.reader with
  | .reading =>
    { s with typing := (s.typing.receive code).1, received := s.received ++ [code] }
  | _ => s

def put (s : Interplay) : Interplay :=
  { s with typing := s.typing.store, puts := s.puts ++ s.typing.offer }

def attend (s : Interplay) : Interplay :=
  match s.current with
  | none => { s with current := some [] }
  | some _ => s

def take (s : Interplay) : Interplay :=
  match s.current with
  | none => s
  | some entries =>
    match s.typing.take with
    | none => { s with current := none, looks := s.looks ++ [(entries, false)] }
    | some (.quit, rest) =>
      { s with
        typing := rest
        current := none
        taken := s.taken ++ [.quit]
        looks := s.looks ++ [(entries ++ [.quit], true)] }
    | some (.code value, rest) =>
      { s with
        typing := rest
        current := some (entries ++ [.code value])
        taken := s.taken ++ [.code value] }

def requestStop (s : Interplay) : Interplay :=
  { s with typing := s.typing.requestStop }

def apply (s : Interplay) : Move → Interplay
  | .look => s.look
  | .receive code => s.receive code
  | .put => s.put
  | .attend => s.attend
  | .take => s.take
  | .requestStop => s.requestStop

def after (s : Interplay) (moves : List Move) : Interplay :=
  moves.foldl apply s

end Interplay

namespace Typing

variable {typing : Typing}

theorem entries_append {codes : List Int} (unasked : ∀ code ∈ codes, code ∉ quitCodes)
    (code : Int) :
    entries (codes ++ [code]) = entries codes ++
      if code < 0 then [] else if code ∈ quitCodes then [.quit] else [.code code.toNat] := by
  have earlier : ∀ c ∈ codes, decide (c ∉ quitCodes) = true := by simpa using unasked
  have before : codes.takeWhile (· ∉ quitCodes) = codes := List.takeWhile_eq_self_iff.2 earlier
  have unquit : ¬ ∃ c ∈ codes, c ∈ quitCodes := by simpa using unasked
  unfold entries characters
  rw [List.takeWhile_append_of_pos earlier, before, if_neg unquit]
  by_cases asked : code ∈ quitCodes
  · -- No code that asks to quit is negative.
    have counted : ¬ code < 0 := by
      simp only [quitCodes, List.mem_cons, List.not_mem_nil, or_false] at asked
      omega
    simp [asked, counted]
  · have still : ¬ ∃ c ∈ codes ++ [code], c ∈ quitCodes := by
      rintro ⟨c, member, asks⟩
      rcases List.mem_append.1 member with member | last
      · exact unasked c member asks
      · exact asked (List.mem_singleton.1 last ▸ asks)
    rw [if_neg still]
    by_cases negative : code < 0
    · simp [asked, negative, Int.not_le.2 negative]
    · simp [asked, negative, Int.not_lt.1 negative]

theorem not_mem_characters (codes : List Int) : Typed.quit ∉ characters codes := by
  simp [characters]

theorem held_look (looking : typing.reader = .looking) : typing.look.held = typing.held := by
  unfold held look
  rw [looking]
  cases typing.stopRequested <;> rfl

theorem receive_queue (typing : Typing) (code : Int) :
    (typing.receive code).1.queue = typing.queue := by
  unfold receive
  repeat' split
  all_goals rfl

theorem held_receive {code : Int} (character : code < 0x110000) :
    (typing.receive code).1.held =
      if code < 0 then [] else if code ∈ quitCodes then [.quit] else [.code code.toNat] := by
  unfold receive
  simp only [List.contains_iff_mem, character, if_true]
  split
  · rfl
  · split <;> rfl

theorem held_store (typing : Typing) :
    typing.offer.map Prod.fst ++ typing.store.held = typing.held := by
  unfold offer store held
  cases holding : typing.reader with
  | holding entry =>
    cases entry with
    | quit =>
      dsimp only
      by_cases room : typing.queue.length < capacity <;> simp [room, holding]
    | code value =>
      dsimp only
      by_cases room : typing.queue.length < capacity <;> simp [room]
  | _ => simp [holding]

theorem queue_store (typing : Typing) :
    typing.store.queue =
      typing.queue ++ (typing.offer.filter (·.2 < capacity)).map Prod.fst := by
  unfold offer store
  cases typing.reader with
  | holding entry =>
    cases entry <;> dsimp only <;> by_cases room : typing.queue.length < capacity <;> simp [room]
  | _ => simp

theorem length_store (bounded : typing.queue.length ≤ capacity) :
    typing.store.queue.length ≤ capacity := by
  have offered :
      (typing.offer.filter (·.2 < capacity)).length ≤ capacity - typing.queue.length := by
    unfold offer
    cases typing.reader with
    | holding entry =>
      cases entry <;> dsimp only <;> by_cases room : typing.queue.length < capacity <;>
        simp [room]
      all_goals omega
    | _ => simp
  rw [queue_store, List.length_append, List.length_map]
  omega

theorem offer_eq {entry : Typed} {n : Nat} (offered : (entry, n) ∈ typing.offer) :
    n = typing.queue.length ∧ (entry = .quit → n < capacity) := by
  unfold offer at offered
  split at offered
  · split at offered
    · cases List.mem_singleton.1 offered
      exact ⟨rfl, fun _ => by assumption⟩
    · cases offered
  · cases List.mem_singleton.1 offered
    exact ⟨rfl, nofun⟩
  · cases offered

theorem reader_receive_quit {code : Int} (asks : code ∈ quitCodes) :
    (typing.receive code).1.reader = .holding .quit := by
  have counted : ¬ code < 0 := by
    simp only [quitCodes, List.mem_cons, List.not_mem_nil, or_false] at asks
    omega
  unfold receive
  rw [if_neg counted, if_pos (List.contains_iff_mem.2 asks)]

theorem reader_receive (typing : Typing) (code : Int) :
    (typing.receive code).1.reader ≠ .reading := by
  unfold receive
  repeat' split
  all_goals nofun

theorem stopRequested_receive (typing : Typing) (code : Int) :
    (typing.receive code).1.stopRequested = typing.stopRequested := by
  unfold receive
  repeat' split
  all_goals rfl

theorem stopRequested_store (typing : Typing) :
    typing.store.stopRequested = typing.stopRequested := by
  unfold store
  repeat' split
  all_goals rfl

theorem reading_of_store (reading : typing.store.reader = .reading) :
    typing.reader = .reading := by
  unfold store at reading
  repeat' split at reading
  all_goals first | exact reading | cases reading

theorem length_held_store (typing : Typing) :
    typing.store.queue.length + typing.store.held.length ≤
      typing.queue.length + typing.held.length := by
  have held := congrArg List.length (held_store typing)
  have joined := List.length_filter_le (fun put : Typed × Nat => put.2 < capacity) typing.offer
  rw [List.length_append, List.length_map] at held
  rw [queue_store, List.length_append, List.length_map]
  omega

theorem length_held_le (typing : Typing) : typing.held.length ≤ 1 := by
  unfold held
  split
  · exact Nat.le_refl 1
  · exact Nat.zero_le 1

theorem reader_store_quit (quitting : typing.reader = .holding .quit ∨ typing.reader = .finished) :
    typing.store.reader = .holding .quit ∨ typing.store.reader = .finished := by
  unfold store
  rcases quitting with holding | finished
  · rw [holding]
    dsimp only
    split
    · exact .inr rfl
    · exact .inl holding
  · rw [finished]
    exact .inr finished

end Typing

namespace Typist

variable {τ : Type} [LE τ] [DecidableLE τ]

theorem poll_fst (typist : Typist τ) (keypad : Keypad) (now expiry : τ) :
    (typist.poll keypad now expiry).1 = typist.typing.takeAll.2.1 := by
  unfold poll
  dsimp only
  split
  · rename_i asked
    exact asked.symm
  · rename_i unasked
    exact (Bool.eq_false_iff.2 unasked).symm

theorem poll_typing (typist : Typist τ) (keypad : Keypad) (now expiry : τ) :
    (typist.poll keypad now expiry).2.2.typing = typist.typing.takeAll.2.2 := by
  unfold poll
  dsimp only
  split <;> rfl

end Typist

namespace Interplay

open Typing

/-- What holds whenever the reader and the run are between two moves. -/
structure Orderly (s : Interplay) : Prop where
  bounded : s.typing.queue.length ≤ capacity
  order : s.puts.map Prod.fst ++ s.typing.held = entries s.received
  kept : s.taken ++ s.typing.queue = (s.puts.filter (·.2 < capacity)).map Prod.fst
  found : ∀ put ∈ s.puts, put.2 ≤ capacity ∧ (put.1 = .quit → put.2 < capacity)
  quitting : (∃ code ∈ s.received, code ∈ quitCodes) →
    s.typing.reader = .holding .quit ∨ s.typing.reader = .finished
  current : ∀ entries ∈ s.current, Typed.quit ∉ entries
  looks : ∀ look ∈ s.looks, look.2 = true ↔ .quit ∈ look.1
  taken : s.looks.flatMap Prod.fst ++ s.current.getD [] = s.taken

variable {s : Interplay}

theorem orderly_start : start.Orderly where
  bounded := Nat.zero_le 16
  order := rfl
  kept := rfl
  found := by intro put member; cases member
  quitting := by rintro ⟨code, member, -⟩; cases member
  current := by intro entries member; cases member
  looks := by intro look member; cases member
  taken := rfl

theorem Orderly.look (h : s.Orderly) : s.look.Orderly := by
  unfold Interplay.look
  split
  · rename_i looking
    refine { h with order := ?_, quitting := ?_ }
    · exact (congrArg _ (held_look looking)).trans h.order
    · intro asked
      rcases h.quitting asked with held | finished
      · rw [held] at looking
        cases looking
      · rw [finished] at looking
        cases looking
  · exact h

theorem Orderly.receive (h : s.Orderly) {code : Int} (character : code < 0x110000) :
    (s.receive code).Orderly := by
  unfold Interplay.receive
  split
  · rename_i reading
    -- A reader that reads on has not received a wish to quit, and holds nothing.
    have unasked : ∀ c ∈ s.received, c ∉ quitCodes := by
      intro c member asks
      rcases h.quitting ⟨c, member, asks⟩ with held | finished
      · rw [held] at reading
        cases reading
      · rw [finished] at reading
        cases reading
    have nothing : s.typing.held = [] := by
      unfold held
      rw [reading]
    have order := h.order
    rw [nothing, List.append_nil] at order
    refine { h with bounded := ?_, order := ?_, kept := ?_, quitting := ?_ }
    · rw [receive_queue]
      exact h.bounded
    · rw [entries_append unasked, order, held_receive character]
    · rw [receive_queue]
      exact h.kept
    · rintro ⟨c, member, asks⟩
      rcases List.mem_append.1 member with member | last
      · exact absurd asks (unasked c member)
      · obtain rfl := List.mem_singleton.1 last
        exact .inl (reader_receive_quit asks)
  · exact h

theorem Orderly.put (h : s.Orderly) : s.put.Orderly where
  bounded := length_store h.bounded
  order := by
    change (s.puts ++ s.typing.offer).map Prod.fst ++ s.typing.store.held = entries s.received
    rw [List.map_append, List.append_assoc, held_store]
    exact h.order
  kept := by
    change s.taken ++ s.typing.store.queue =
      ((s.puts ++ s.typing.offer).filter (·.2 < capacity)).map Prod.fst
    rw [queue_store, ← List.append_assoc, h.kept, List.filter_append, List.map_append]
  found := by
    rintro ⟨entry, n⟩ member
    rcases List.mem_append.1 member with member | offered
    · exact h.found _ member
    · obtain ⟨rfl, room⟩ := offer_eq offered
      exact ⟨h.bounded, room⟩
  quitting asked := reader_store_quit (h.quitting asked)
  current := h.current
  looks := h.looks
  taken := h.taken

theorem Orderly.attend (h : s.Orderly) : s.attend.Orderly := by
  unfold Interplay.attend
  split
  · rename_i idle
    have taken := h.taken
    rw [idle] at taken
    refine { h with current := ?_, taken := taken }
    rintro entries ⟨⟩
    exact List.not_mem_nil
  · exact h

theorem exists_of_take {typing rest : Typing} {entry : Typed}
    (took : typing.take = some (entry, rest)) :
    ∃ queue, typing.queue = entry :: queue ∧ rest = { typing with queue } := by
  unfold Typing.take at took
  split at took
  · cases took
  · rename_i first queue full
    cases took
    exact ⟨queue, full, rfl⟩

theorem Orderly.take (h : s.Orderly) : s.take.Orderly := by
  unfold Interplay.take
  split
  · exact h
  · rename_i entries looking
    have unasked : Typed.quit ∉ entries := h.current entries looking
    have sofar := h.taken
    have bounded := h.bounded
    have kept := h.kept
    rw [looking, Option.getD_some] at sofar
    -- The queue is empty, or its first entry is the wish to quit, or a character.
    split
    · refine { h with current := nofun, looks := ?_, taken := ?_ }
      · intro look member
        rcases List.mem_append.1 member with member | last
        · exact h.looks look member
        · obtain rfl := List.mem_singleton.1 last
          simp [unasked]
      · simpa using sofar
    · rename_i rest took
      obtain ⟨queue, full, rfl⟩ := exists_of_take took
      rw [full] at bounded kept
      refine { h with
        bounded := Nat.le_of_succ_le bounded, kept := ?_, current := nofun, looks := ?_,
        taken := ?_ }
      · simpa using kept
      · intro look member
        rcases List.mem_append.1 member with member | last
        · exact h.looks look member
        · obtain rfl := List.mem_singleton.1 last
          simp
      · simp [← sofar]
    · rename_i value rest took
      obtain ⟨queue, full, rfl⟩ := exists_of_take took
      rw [full] at bounded kept
      refine { h with
        bounded := Nat.le_of_succ_le bounded, kept := ?_, current := ?_, taken := ?_ }
      · simpa using kept
      · rintro entries' ⟨⟩
        simpa using unasked
      · simp [← sofar]

theorem Orderly.apply (h : s.Orderly) (move : Move)
    (range : ∀ code, move = .receive code → code < 0x110000) : (s.apply move).Orderly := by
  cases move with
  | look => exact h.look
  | receive code => exact h.receive (range code rfl)
  | put => exact h.put
  | attend => exact h.attend
  | take => exact h.take
  | requestStop => exact { h with }

theorem Orderly.after (h : s.Orderly) (moves : List Move)
    (range : ∀ code ∈ moves.filterMap Move.code?, code < 0x110000) : (s.after moves).Orderly := by
  induction moves generalizing s with
  | nil => exact h
  | cons move moves ih =>
    simp only [List.mem_filterMap, List.mem_cons] at range
    have first := h.apply move fun code same => range code ⟨move, .inl rfl, by rw [same]; rfl⟩
    refine ih first fun code later => ?_
    obtain ⟨other, member, brings⟩ := List.mem_filterMap.1 later
    exact range code ⟨other, .inr member, brings⟩

/-- The codes that the reader will receive whatever it is asked: it waits for one already. -/
def pending (s : Interplay) : Nat :=
  if s.typing.reader = .reading then 1 else 0

theorem pending_put (s : Interplay) : s.put.pending ≤ s.pending := by
  unfold pending
  split
  · rename_i reading
    exact Nat.le_of_eq (if_pos (reading_of_store reading)).symm
  · exact Nat.zero_le _

theorem typing_take (s : Interplay) :
    s.take.typing.reader = s.typing.reader ∧
      s.take.typing.stopRequested = s.typing.stopRequested ∧ s.take.received = s.received := by
  unfold take
  split
  · exact ⟨rfl, rfl, rfl⟩
  · split
    · exact ⟨rfl, rfl, rfl⟩
    · rename_i took
      obtain ⟨queue, -, rfl⟩ := exists_of_take took
      exact ⟨rfl, rfl, rfl⟩
    · rename_i took
      obtain ⟨queue, -, rfl⟩ := exists_of_take took
      exact ⟨rfl, rfl, rfl⟩

theorem received_apply (stopped : s.typing.stopRequested = true) (move : Move) :
    (s.apply move).typing.stopRequested = true ∧
      (s.apply move).received.length + (s.apply move).pending ≤ s.received.length + s.pending := by
  cases move with
  | look =>
    change s.look.typing.stopRequested = true ∧ s.look.received.length + s.look.pending ≤ _
    unfold look
    split
    · refine ⟨stopped, ?_⟩
      simp [pending, Typing.look, stopped]
    · exact ⟨stopped, Nat.le_refl _⟩
  | receive code =>
    change (s.receive code).typing.stopRequested = true ∧
      (s.receive code).received.length + (s.receive code).pending ≤ _
    unfold receive
    split
    · rename_i reading
      have ended := reader_receive s.typing code
      refine ⟨(stopRequested_receive s.typing code).trans stopped, ?_⟩
      simp [pending, reading, ended]
    · exact ⟨stopped, Nat.le_refl _⟩
  | put =>
    refine ⟨(stopRequested_store s.typing).trans stopped, ?_⟩
    exact Nat.add_le_add_left (pending_put s) _
  | attend =>
    change s.attend.typing.stopRequested = true ∧ s.attend.received.length + s.attend.pending ≤ _
    unfold attend
    split <;> exact ⟨stopped, Nat.le_refl _⟩
  | take =>
    obtain ⟨reader, still, received⟩ := typing_take s
    change s.take.typing.stopRequested = true ∧ s.take.received.length + s.take.pending ≤ _
    unfold pending
    rw [reader, still, received]
    exact ⟨stopped, Nat.le_refl _⟩
  | requestStop => exact ⟨rfl, Nat.le_refl _⟩

theorem received_after (stopped : s.typing.stopRequested = true) (moves : List Move) :
    (s.after moves).received.length ≤ s.received.length + 1 := by
  -- A code that the reader waits for counts already, so no move adds to the sum.
  have bound : (s.after moves).received.length + (s.after moves).pending ≤
      s.received.length + s.pending := by
    induction moves generalizing s with
    | nil => exact Nat.le_refl _
    | cons move moves ih =>
      obtain ⟨still, first⟩ := received_apply stopped move
      exact Nat.le_trans (ih still) first
  have last : s.pending ≤ 1 := by
    unfold pending
    split <;> omega
  omega

end Interplay

end Chip8
