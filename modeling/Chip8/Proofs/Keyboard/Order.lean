import Chip8.Proofs.Keyboard.Interplay

namespace Chip8

namespace Interplay

open Typing

variable {s : Interplay}

theorem after_drain (fuel : Nat) {entries : List Typed} (looking : s.current = some entries)
    (enough : s.typing.queue.length + s.typing.held.length ≤ fuel) :
    ∃ moves, (s.after moves).typing = (drain fuel s.typing).2.2 ∧
      (s.after moves).looks = s.looks ++
        [(entries ++ (drain fuel s.typing).1.map .code ++
          if (drain fuel s.typing).2.1 then [.quit] else [], (drain fuel s.typing).2.1)] := by
  induction fuel generalizing s entries with
  | zero =>
    have empty : s.typing.queue = [] := List.length_eq_zero_iff.1 (by omega)
    refine ⟨[.take], ?_⟩
    have nothing : s.typing.take = none := by
      unfold Typing.take
      rw [empty]
    simp [after, apply, take, looking, nothing, drain]
  | succ fuel ih =>
    cases took : s.typing.take with
    | none =>
      refine ⟨[.take], ?_⟩
      simp [after, apply, take, looking, took, drain]
    | some first =>
      obtain ⟨entry, rest⟩ := first
      cases entry with
      | quit =>
        refine ⟨[.take], ?_⟩
        simp [after, apply, take, looking, took, drain]
      | code value =>
        -- The entry that was taken made room, and the reader puts before the next one is taken.
        let next := s.take.put
        have typing : next.typing = rest.store := by
          simp [next, put, take, looking, took]
        have current : next.current = some (entries ++ [.code value]) := by
          simp [next, put, take, looking, took]
        have looks : next.looks = s.looks := by
          simp [next, put, take, looking, took]
        obtain ⟨queue, full, same⟩ := exists_of_take took
        have shorter : rest.store.queue.length + rest.store.held.length ≤ fuel := by
          have stored := length_held_store rest
          have held : rest.held = s.typing.held := by rw [same]; rfl
          have short : s.typing.queue.length = rest.queue.length + 1 := by rw [full, same]; rfl
          rw [held] at stored
          omega
        obtain ⟨moves, left, told⟩ := ih current (by rw [typing]; exact shorter)
        refine ⟨.take :: .put :: moves, ?_⟩
        rw [typing] at left told
        rw [looks] at told
        have done : s.after (.take :: .put :: moves) = next.after moves := rfl
        rw [done, left, told]
        simp [drain, took]

theorem after_read (looking : s.typing.reader = .looking) (codes : List Int) :
    ∃ moves, (s.after moves).typing = (s.typing.read codes).1 := by
  induction codes generalizing s with
  | nil => exact ⟨[], rfl⟩
  | cons code codes ih =>
    have looked : s.look.typing = s.typing.look := by simp [look, looking]
    unfold Typing.read
    split
    · rename_i reading
      have received : (s.look.receive code).typing = (s.typing.look.receive code).1 := by
        simp [receive, looked, reading]
      have stored : (s.look.receive code).put.typing = (s.typing.look.receive code).1.store := by
        simp [put, received]
      dsimp only
      split
      · exact ⟨[.look, .receive code], received⟩
      · split
        · rename_i again
          rw [← stored] at again
          obtain ⟨moves, same⟩ := ih again
          rw [stored] at same
          exact ⟨.look :: .receive code :: .put :: moves, same⟩
        · exact ⟨[.look, .receive code, .put], stored⟩
    · exact ⟨[.look], looked⟩

theorem Orderly.progress (h : s.Orderly) :
    ((∀ code ∈ s.received, code ∉ quitCodes) ∧
      s.puts.map Prod.fst ++ s.typing.held = characters s.received) ∨
    (s.typing.reader = .holding .quit ∧ s.puts.map Prod.fst = characters s.received) ∨
    ∃ earlier n, s.puts = earlier ++ [(.quit, n)] ∧
      earlier.map Prod.fst = characters s.received := by
  have order := h.order
  unfold entries at order
  split at order
  · rename_i asked
    rcases h.quitting asked with waiting | finished
    · have held : s.typing.held = [.quit] := by
        unfold held
        rw [waiting]
      rw [held] at order
      exact .inr (.inl ⟨waiting, (List.append_inj' order rfl).1⟩)
    · have held : s.typing.held = [] := by
        unfold held
        rw [finished]
      rw [held, List.append_nil] at order
      obtain ⟨earlier, last, same, before, quit⟩ := List.map_eq_append_iff.1 order
      obtain ⟨put, rfl, kind⟩ := List.map_eq_singleton_iff.1 quit
      obtain ⟨entry, n⟩ := put
      obtain rfl : entry = .quit := kind
      exact .inr (.inr ⟨earlier, n, same, before⟩)
  · rename_i unasked
    rw [List.append_nil] at order
    exact .inl ⟨by simpa using unasked, order⟩

/-- What was put and kept: characters in the order they were typed in, and the wish to quit behind
them once it was put. -/
theorem Orderly.kept_sublist (h : s.Orderly) :
    ∃ kept : List Int, kept.Sublist ((s.received.takeWhile (· ∉ quitCodes)).filter (0 ≤ ·)) ∧
      s.taken ++ s.typing.queue = kept.map (.code ·.toNat) ++
        if .quit ∈ s.puts.map Prod.fst then [.quit] else [] := by
  have pick {entries : List Typed} (sub : entries.Sublist (characters s.received)) :
      ∃ kept : List Int, kept.Sublist ((s.received.takeWhile (· ∉ quitCodes)).filter (0 ≤ ·)) ∧
        entries = kept.map (.code ·.toNat) := List.sublist_map_iff.1 sub
  have early (before : (s.puts.map Prod.fst).Sublist (characters s.received)) :
      ∃ kept : List Int, kept.Sublist ((s.received.takeWhile (· ∉ quitCodes)).filter (0 ≤ ·)) ∧
        s.taken ++ s.typing.queue = kept.map (.code ·.toNat) ++
          if .quit ∈ s.puts.map Prod.fst then [.quit] else [] := by
    have unput : Typed.quit ∉ s.puts.map Prod.fst :=
      fun member => not_mem_characters s.received (before.subset member)
    have filtered := (List.filter_sublist (p := fun put => decide (put.2 < capacity))
      (l := s.puts)).map Prod.fst
    obtain ⟨kept, sub, same⟩ := pick (filtered.trans before)
    refine ⟨kept, sub, ?_⟩
    rw [h.kept, same, if_neg unput, List.append_nil]
  rcases h.progress with ⟨-, order⟩ | ⟨-, order⟩ | ⟨earlier, n, puts, order⟩
  · exact early (order ▸ List.sublist_append_left _ _)
  · exact early (order ▸ List.Sublist.refl _)
  · -- The wish to quit found room, so only characters are missing.
    have room : n < capacity := (h.found (.quit, n) (by simp [puts])).2 rfl
    have filtered := (List.filter_sublist (p := fun put => decide (put.2 < capacity))
      (l := earlier)).map Prod.fst
    obtain ⟨kept, sub, same⟩ := pick (order ▸ filtered)
    refine ⟨kept, sub, ?_⟩
    rw [h.kept, puts, List.filter_append, List.map_append, same]
    simp [room]

theorem Orderly.quit_kept (h : s.Orderly) (asked : ∃ code ∈ s.received, code ∈ quitCodes) :
    s.typing.reader = .holding .quit ∨ .quit ∈ s.taken ++ s.typing.queue := by
  rcases h.progress with ⟨unasked, -⟩ | ⟨waiting, -⟩ | ⟨earlier, n, puts, -⟩
  · obtain ⟨code, member, asks⟩ := asked
    exact absurd asks (unasked code member)
  · exact .inl waiting
  · have room : n < capacity := (h.found (.quit, n) (by simp [puts])).2 rfl
    right
    rw [h.kept, puts]
    simp [room]

theorem Orderly.quit_last (h : s.Orderly) {earlier later : List (Typed × Nat)} {n : Nat}
    (puts : s.puts = earlier ++ (.quit, n) :: later) : later = [] := by
  have put : Typed.quit ∈ s.puts.map Prod.fst := by simp [puts]
  rcases h.progress with ⟨-, order⟩ | ⟨-, order⟩ | ⟨before, k, same, order⟩
  · exact absurd (order ▸ List.mem_append_left _ put) (not_mem_characters s.received)
  · exact absurd (order ▸ put) (not_mem_characters s.received)
  · rcases List.eq_nil_or_concat later with rfl | ⟨middle, last, rfl⟩
    · rfl
    · rw [puts, List.concat_eq_append, ← List.cons_append, ← List.append_assoc] at same
      have inside := (List.append_inj' same rfl).1
      have member : Typed.quit ∈ before.map Prod.fst := by simp [← inside]
      exact absurd (order ▸ member) (not_mem_characters s.received)

theorem waits (waiting : s.typing.reader = .holding .quit) :
    (s.typing.queue.length < 16 →
      s.put.typing.queue = s.typing.queue ++ [.quit] ∧ s.put.typing.reader = .finished) ∧
    (16 ≤ s.typing.queue.length → s.put = s) ∧
    ∀ move, move ≠ .put → (s.apply move).typing.reader = .holding .quit := by
  refine ⟨fun room => ?_, fun full => ?_, fun move other => ?_⟩
  · have room' : s.typing.queue.length < capacity := room
    simp [put, Typing.store, waiting, room']
  · have full' : ¬ s.typing.queue.length < capacity := Nat.not_lt.2 full
    simp [put, Typing.store, Typing.offer, waiting, full']
  · cases move with
    | put => exact absurd rfl other
    | look => simp [apply, look, waiting]
    | receive code => simp [apply, receive, waiting]
    | attend =>
      change s.attend.typing.reader = _
      unfold attend
      split <;> exact waiting
    | take => exact (typing_take s).1.trans waiting
    | requestStop => exact waiting

/-- Whatever the order in which the reader and the run move: the queue never holds more than sixteen
entries; what was taken and what is still queued are characters typed before the first code that
asks to quit, in the order of typing, and behind them the wish to quit once it was put; every
character before it was put, and those are missing that found sixteen entries; the wish to quit is
kept, waits for room, and is put last; a look for keys tells of it exactly if it took it; and a
reader that is asked to stop receives at most one more code. The program's own ways to look for keys
and to read are such orders of moves. -/
theorem typed_in_order {τ : Type} [LE τ] [DecidableLE τ] (moves : List Move)
    (range : ∀ code ∈ moves.filterMap Move.code?, code < 0x110000) :
    let s := start.after moves
    let before := (s.received.takeWhile (· ∉ [27, 3])).filter (0 ≤ ·)
    s.typing.queue.length ≤ 16 ∧
    (∃ kept : List Int, kept.Sublist before ∧
      s.taken ++ s.typing.queue = kept.map (.code ·.toNat) ++
        if .quit ∈ s.puts.map Prod.fst then [.quit] else []) ∧
    (s.puts.map Prod.fst ++ s.typing.held = before.map (.code ·.toNat) ++
        (if ∃ code ∈ s.received, code ∈ [27, 3] then [.quit] else []) ∧
      s.taken ++ s.typing.queue = (s.puts.filter (·.2 < 16)).map Prod.fst ∧
      ∀ put ∈ s.puts, put.2 ≤ 16) ∧
    ((∃ code ∈ s.received, code ∈ [27, 3]) →
      s.typing.reader = .holding .quit ∨ .quit ∈ s.taken ++ s.typing.queue) ∧
    (s.typing.reader = .holding .quit →
      (s.typing.queue.length < 16 →
        s.put.typing.queue = s.typing.queue ++ [.quit] ∧ s.put.typing.reader = .finished) ∧
      (16 ≤ s.typing.queue.length → s.put = s) ∧
      ∀ move, move ≠ .put → (s.apply move).typing.reader = .holding .quit) ∧
    (∀ earlier later n, s.puts = earlier ++ (.quit, n) :: later → later = []) ∧
    ((∀ look ∈ s.looks, look.2 = true ↔ .quit ∈ look.1) ∧
      s.looks.flatMap Prod.fst ++ s.current.getD [] = s.taken) ∧
    (∀ later, (s.requestStop.after later).received.length ≤ s.received.length + 1) ∧
    (∀ (typist : Typist τ) (keypad : Keypad) (now expiry : τ), typist.typing = s.typing →
      s.current = none → ∃ later entries,
        (s.after later).typing = (typist.poll keypad now expiry).2.2.typing ∧
        (s.after later).looks = s.looks ++ [(entries, (typist.poll keypad now expiry).1)]) ∧
    (∀ codes, s.typing.reader = .looking →
      ∃ later, (s.after later).typing = (s.typing.read codes).1) := by
  intro s before
  have orderly : s.Orderly := orderly_start.after moves range
  refine ⟨orderly.bounded, orderly.kept_sublist, ⟨orderly.order, orderly.kept, ?_⟩,
    orderly.quit_kept, waits, fun _ _ _ => orderly.quit_last, ⟨orderly.looks, orderly.taken⟩,
    received_after rfl, ?_, fun codes looking => after_read looking codes⟩
  · exact fun put member => (orderly.found put member).1
  · intro typist keypad now expiry same idle
    have looking : s.attend.current = some [] := by simp [attend, idle]
    have enough : s.attend.typing.queue.length + s.attend.typing.held.length ≤
        s.typing.queue.length + 1 := by
      have typing : s.attend.typing = s.typing := by simp [attend, idle]
      have short := length_held_le s.typing
      rw [typing]
      omega
    obtain ⟨later, left, told⟩ := after_drain _ looking enough
    have typing : s.attend.typing = typist.typing := by simp [attend, idle, same]
    have looks : s.attend.looks = s.looks := by simp [attend, idle]
    rw [typing, ← same] at left told
    rw [looks] at told
    rw [Typist.poll_typing, Typist.poll_fst]
    exact ⟨.attend :: later, _, left, told⟩

def overfull : List Move :=
  (List.range 17).flatMap (fun k => [.look, .receive (97 + k : Nat), .put]) ++
    [.look, .receive 27, .put, .attend, .take, .put] ++ List.replicate 16 .take

theorem typed_in_order_overfull :
    let s := start.after overfull
    let before := (s.received.takeWhile (· ∉ [27, 3])).filter (0 ≤ ·)
    (∀ code ∈ overfull.filterMap Move.code?, code < 0x110000) ∧
      before.length = 17 ∧ (.code 113, 16) ∈ s.puts ∧ s.looks.map Prod.snd = [true] ∧
      (∃ kept : List Int, kept.Sublist before ∧
        s.taken ++ s.typing.queue = kept.map (.code ·.toNat) ++
          if .quit ∈ s.puts.map Prod.fst then [.quit] else []) ∧
      s.taken ++ s.typing.queue = (s.puts.filter (·.2 < 16)).map Prod.fst ∧
      ∀ later, (s.requestStop.after later).received.length ≤ s.received.length + 1 := by
  have range : ∀ code ∈ overfull.filterMap Move.code?, code < 0x110000 := by decide +kernel
  have typed := @typed_in_order Nat _ _ overfull range
  have lost :
      (((start.after overfull).received.takeWhile (· ∉ [27, 3])).filter (0 ≤ ·)).length = 17 ∧
      (.code 113, 16) ∈ (start.after overfull).puts ∧
      (start.after overfull).looks.map Prod.snd = [true] := by
    decide +kernel
  dsimp only at typed ⊢
  generalize start.after overfull = s at typed lost ⊢
  obtain ⟨-, kept, ⟨-, found, -⟩, -, -, -, -, stop, -⟩ := typed
  exact ⟨range, lost.1, lost.2.1, lost.2.2, kept, found, stop⟩

end Interplay

end Chip8
