import Chip8.Proofs.Keyboard.Keypad

namespace Chip8

namespace Keymap

def symbols (text : String) : List String :=
  (Text.fields text).map normal

/-- What is wrong with the symbol at a place: it is empty, or it stands at an earlier place too. -/
inductive Bad (symbols : List String) (k : Nat) : Fault → Prop where
  | blank (here : symbols[k]? = some "") : Bad symbols k (.keyBlank k)
  | repeated {symbol : String} (filled : symbol ≠ "") (here : symbols[k]? = some symbol)
      (before : ∃ j < k, symbols[j]? = some symbol) : Bad symbols k .keyRepeated

/-- The first symbol that is bad, and what is wrong with it. -/
structure FirstBad (symbols : List String) (k : Nat) (fault : Fault) : Prop where
  bad : Bad symbols k fault
  good : ∀ j < k, ∀ other, ¬ Bad symbols j other

def entries (key : Nat) (symbols : List String) : Keymap :=
  (symbols.zipIdx key).map fun (symbol, k) => (symbol, Fin.ofNat 16 k)

variable {all : List String} {k : Nat} {fault other : Fault} {text symbol : String}
variable {keymap : Keymap} {key : Nibble}

theorem Bad.unique (bad : Bad all k fault) (also : Bad all k other) : other = fault := by
  cases bad with
  | blank here =>
    cases also with
    | blank _ => rfl
    | repeated filled also _ => exact absurd (Option.some.inj (also.symm.trans here)) filled
  | repeated filled here _ =>
    cases also with
    | blank also => exact absurd (Option.some.inj (here.symm.trans also)) filled
    | repeated _ _ _ => rfl

theorem FirstBad.unique (first : FirstBad all k fault) {j : Nat} (also : FirstBad all j other) :
    other = fault := by
  have same : j = k := by
    rcases Nat.lt_trichotomy j k with before | same | behind
    · exact absurd also.bad (first.good j before _)
    · exact same
    · exact absurd first.bad (also.good k behind _)
  subst same
  exact first.bad.unique also.bad

theorem never_bad_iff : (∀ k fault, ¬ Bad all k fault) ↔ "" ∉ all ∧ all.Nodup := by
  constructor
  · intro good
    have filled : "" ∉ all := by
      intro member
      obtain ⟨k, here⟩ := List.mem_iff_getElem?.1 member
      exact good k _ (.blank here)
    refine ⟨filled, List.nodup_iff_getElem?_ne_getElem?.2 fun j k before inside same => ?_⟩
    have here : all[k]? = some all[k] := List.getElem?_eq_getElem inside
    have symbol : all[k] ≠ "" := fun blank => filled (blank ▸ List.getElem_mem inside)
    exact good k _ (.repeated symbol here ⟨j, before, same.trans here⟩)
  · rintro ⟨filled, distinct⟩ k fault bad
    cases bad with
    | blank here => exact filled (List.mem_of_getElem? here)
    | repeated _ here before =>
      obtain ⟨j, earlier, same⟩ := before
      have inside := (List.getElem?_eq_some_iff.1 here).1
      exact List.nodup_iff_getElem?_ne_getElem?.1 distinct j k earlier inside (same.trans here.symm)

theorem lookup_isSome_iff : (keymap.lookup symbol).isSome ↔ symbol ∈ keymap.map Prod.fst := by
  rw [← not_iff_not, Bool.not_eq_true, Option.isSome_eq_false_iff, Option.isNone_iff_eq_none,
    List.lookup_eq_none_iff, List.mem_map]
  constructor
  · rintro fresh ⟨entry, member, rfl⟩
    exact absurd rfl (bne_iff_ne.1 (fresh entry member))
  · intro fresh entry member
    exact bne_iff_ne.2 fun same => fresh ⟨entry, member, same.symm⟩

theorem assign_outcome {earlier : Keymap} {fields : List String}
    (whole : all = earlier.map Prod.fst ++ fields.map normal)
    (good : ∀ j < earlier.length, ∀ fault, ¬ Bad all j fault) :
    (assign earlier earlier.length fields =
        .ok (earlier ++ entries earlier.length (fields.map normal)) ∧
      ∀ j fault, ¬ Bad all j fault) ∨
    ∃ k fault, FirstBad all k fault ∧ assign earlier earlier.length fields = .error fault := by
  -- All symbols stay the same while fields move to the keys given out, of which none is bad so far.
  induction fields generalizing earlier with
  | nil =>
    refine .inl ⟨by simp [assign, entries], fun j fault bad => ?_⟩
    have length : all.length = earlier.length := by simp [whole]
    have inside : j < all.length := by
      cases bad with
      | blank here => exact (List.getElem?_eq_some_iff.1 here).1
      | repeated _ here _ => exact (List.getElem?_eq_some_iff.1 here).1
    exact good j (length ▸ inside) fault bad
  | cons field fields ih =>
    have here : all[earlier.length]? = some (normal field) := by
      simp [whole]
    have before : ∀ symbol, symbol ∈ earlier.map Prod.fst ↔
        ∃ j < earlier.length, all[j]? = some symbol := by
      intro symbol
      rw [List.mem_iff_getElem?]
      constructor
      · rintro ⟨j, found⟩
        have inside : j < earlier.length := by
          simpa using (List.getElem?_eq_some_iff.1 found).1
        exact ⟨j, inside, by rw [whole, List.getElem?_append_left (by simpa using inside), found]⟩
      · rintro ⟨j, inside, found⟩
        rw [whole, List.getElem?_append_left (by simpa using inside)] at found
        exact ⟨j, found⟩
    unfold assign
    by_cases blank : normal field = ""
    · rw [blank] at here
      exact .inr ⟨_, _, ⟨.blank here, good⟩, by simp [blank]⟩
    · by_cases old : normal field ∈ earlier.map Prod.fst
      · exact .inr ⟨_, _, ⟨.repeated blank here ((before _).1 old), good⟩,
          by simp [blank, lookup_isSome_iff.2 old]⟩
      · have fresh : ¬ (earlier.lookup (normal field)).isSome :=
          fun found => old (lookup_isSome_iff.1 found)
        simp only [if_neg blank, if_neg fresh]
        have fine : ∀ fault, ¬ Bad all earlier.length fault := by
          rintro _ (blankHere | ⟨_, found, again⟩)
          · exact blank (Option.some.inj (here.symm.trans blankHere))
          · rw [Option.some.inj (found.symm.trans here)] at again
            exact old ((before _).2 again)
        have goodHere : ∀ j < (earlier ++ [(normal field, Fin.ofNat 16 earlier.length)]).length,
            ∀ fault, ¬ Bad all j fault := by
          intro j inside
          rcases Nat.lt_succ_iff_lt_or_eq.1 (by simpa using inside) with old | rfl
          · exact good j old
          · exact fine
        have later := ih (by simp [whole]) goodHere
        simpa [entries] using later

theorem parse_outcome (text : String) :
    ((Text.fields text).length ≠ 16 ∧ parse text = .error .keyCount) ∨
      (Text.fields text).length = 16 ∧
        ((parse text = .ok (entries 0 (symbols text)) ∧ ∀ k fault, ¬ Bad (symbols text) k fault) ∨
          ∃ k fault, FirstBad (symbols text) k fault ∧ parse text = .error fault) := by
  unfold parse
  by_cases count : (Text.fields text).length = 16
  · refine .inr ⟨count, ?_⟩
    have outcome := @assign_outcome (symbols text) [] (Text.fields text) rfl (by simp)
    simpa [count, symbols] using outcome
  · exact .inl ⟨count, by simp [count]⟩

theorem parse_accepts_iff (text : String) : (∃ keymap, parse text = .ok keymap) ↔
    (Text.fields text).length = 16 ∧ "" ∉ symbols text ∧ (symbols text).Nodup := by
  rw [← never_bad_iff]
  rcases parse_outcome text with
    ⟨count, failed⟩ | ⟨count, ⟨parsed, good⟩ | ⟨k, fault, first, failed⟩⟩
  · simp [failed, count]
  · exact ⟨fun _ => ⟨count, good⟩, fun _ => ⟨_, parsed⟩⟩
  · have bad : ¬ ∀ k fault, ¬ Bad (symbols text) k fault := fun good => good k fault first.bad
    simp only [failed, reduceCtorEq, exists_false, false_iff, not_and]
    exact fun _ => bad

theorem parse_error_iff (count : (Text.fields text).length = 16) :
    parse text = .error fault ↔ ∃ k, FirstBad (symbols text) k fault := by
  rcases parse_outcome text with ⟨other, -⟩ | ⟨-, ⟨parsed, good⟩ | ⟨k, found, first, failed⟩⟩
  · exact absurd count other
  · rw [parsed]
    exact ⟨fun failed => (nomatch failed), fun ⟨k, first⟩ => absurd first.bad (good k fault)⟩
  · rw [failed]
    constructor
    · intro same
      exact ⟨k, Except.error.inj same ▸ first⟩
    · rintro ⟨_, other⟩
      rw [first.unique other]

theorem parse_keyCount (wrong : (Text.fields text).length ≠ 16) :
    parse text = .error .keyCount := by
  rcases parse_outcome text with ⟨-, failed⟩ | ⟨count, -⟩
  · exact failed
  · exact absurd count wrong

theorem rejects_parse (failed : parse text = .error fault) :
    fault = .keyCount ∨ (∃ blank, fault = .keyBlank blank) ∨ fault = .keyRepeated := by
  by_cases count : (Text.fields text).length = 16
  · obtain ⟨k, first⟩ := (parse_error_iff count).1 failed
    cases first.bad with
    | blank _ => exact .inr (.inl ⟨k, rfl⟩)
    | repeated _ _ _ => exact .inr (.inr rfl)
  · exact .inl (Except.error.inj (failed.symm.trans (parse_keyCount count)))

theorem entries_of_parse (accepted : parse text = .ok keymap) :
    (symbols text).length = 16 ∧ keymap = entries 0 (symbols text) := by
  rcases parse_outcome text with ⟨-, failed⟩ | ⟨count, ⟨parsed, -⟩ | ⟨_, _, -, failed⟩⟩
  · rw [failed] at accepted
    cases accepted
  · exact ⟨by simp [symbols, count], Except.ok.inj (accepted.symm.trans parsed)⟩
  · rw [failed] at accepted
    cases accepted

theorem mem_entries (count : all.length = 16) :
    (symbol, key) ∈ entries 0 all ↔ all[key.val]? = some symbol := by
  simp only [entries, List.mem_map, List.mem_zipIdx_iff_getElem?, Prod.exists, Prod.mk.injEq]
  constructor
  · rintro ⟨_, k, here, rfl, rfl⟩
    have inside := (List.getElem?_eq_some_iff.1 here).1
    rwa [Fin.val_ofNat, Nat.mod_eq_of_lt (count ▸ inside)]
  · intro here
    exact ⟨symbol, key, here, rfl, Fin.ext (Nat.mod_eq_of_lt key.isLt)⟩

theorem map_fst_entries : (entries k all).map Prod.fst = all := by
  simp [entries, Function.comp_def]

theorem map_snd_entries :
    (entries k all).map Prod.snd = (List.range' k all.length).map (Fin.ofNat 16) := by
  rw [entries, List.map_map, ← List.zipIdx_map_snd k all, List.map_map]
  rfl

theorem proper_of_parse (accepted : parse text = .ok keymap) : keymap.Proper := by
  obtain ⟨-, -, distinct⟩ := (parse_accepts_iff text).1 ⟨_, accepted⟩
  obtain ⟨count, rfl⟩ := entries_of_parse accepted
  constructor
  · rwa [map_fst_entries]
  · rw [map_snd_entries, count]
    decide

theorem key?_eq_some_iff (accepted : parse text = .ok keymap) :
    keymap.key? symbol = some key ↔ (symbols text)[key.val]? = some (Text.lower symbol) := by
  rw [(proper_of_parse accepted).key?_eq_some_iff]
  obtain ⟨count, rfl⟩ := entries_of_parse accepted
  exact mem_entries count

end Keymap

namespace Keypad

open Keymap

/-- A keypad whose keys are worked by the symbols of a text, in any letter case, and by no others:
a symbol that stands at no place changes nothing. -/
structure WorkedBy (keypad : Keypad) (text : String) : Prop where
  named : ∀ symbol (key : Nibble), keypad.keymap.key? symbol = some key ↔
    (symbols text)[key.val]? = some (Text.lower symbol)
  works : ∀ symbol key down, keypad.keymap.key? symbol = some key →
    ∀ other, (keypad.set symbol down).latch.get other =
      if other = key then down else keypad.latch.get other
  idle : ∀ symbol down, keypad.keymap.key? symbol = none → keypad.set symbol down = keypad
  kept : ∀ symbol down, (keypad.set symbol down).keymap = keypad.keymap
  all : ∀ key : Nibble, ∃ field, (Text.fields text)[key.val]? = some field ∧
    keypad.keymap.key? (Text.strip field) = some key
  alone : ∀ symbol (key other : Nibble), (symbols text)[key.val]? = some symbol →
    (symbols text)[other.val]? = some symbol → other = key

theorem workedBy_of_parse {keypad : Keypad} {text : String}
    (accepted : parse text = .ok keypad.keymap) : keypad.WorkedBy text where
  named symbol key := key?_eq_some_iff accepted
  works symbol key down found other := by
    rw [get_latch_set, found]
    simp only [Option.some.injEq, eq_comm]
  idle symbol down unmapped := by
    unfold set
    rw [unmapped]
  kept symbol down := keymap_set
  all key := by
    have count : (Text.fields text).length = 16 := by
      simpa [symbols] using (entries_of_parse accepted).1
    have inside : key.val < (Text.fields text).length := by
      rw [count]
      exact key.isLt
    refine ⟨_, List.getElem?_eq_getElem inside, ?_⟩
    rw [key?_eq_some_iff accepted]
    simp [symbols, inside, normal]
  alone symbol key other here there := by
    obtain ⟨-, -, distinct⟩ := (parse_accepts_iff text).1 ⟨_, accepted⟩
    have inside := (List.getElem?_eq_some_iff.1 there).1
    exact Fin.ext ((List.getElem?_inj inside distinct).1 (there.trans here.symm))

end Keypad

/-- The keymaps are the texts of sixteen fields whose symbols are all there and all different. What
is said about any other text is about the number of its fields, or else about the first symbol that
is bad. A keypad with a keymap is worked by the symbols of its text. -/
theorem Keymap.parse_settles (text : String) :
    ((∃ keymap, parse text = .ok keymap) ↔
        (Text.fields text).length = 16 ∧ "" ∉ symbols text ∧ (symbols text).Nodup) ∧
      ((Text.fields text).length ≠ 16 → parse text = .error .keyCount) ∧
      ((Text.fields text).length = 16 → ∀ fault, parse text = .error fault ↔
        ∃ k, FirstBad (symbols text) k fault) ∧
      ∀ keypad : Keypad, parse text = .ok keypad.keymap → keypad.WorkedBy text :=
  ⟨parse_accepts_iff text, parse_keyCount, fun count _ => parse_error_iff count,
    fun _ => Keypad.workedBy_of_parse⟩

theorem Keymap.parse_settles_standard :
    (∃ keymap, parse standard = .ok keymap ∧ (Keypad.ofKeymap keymap).WorkedBy standard ∧
        keymap.key? "Q" = some 4) ∧
      parse "x,1,2" = .error .keyCount ∧
      (∃ k, FirstBad (symbols "x,1,2,3,q,w,e,a,s,d,z, ,Z,r,f,v") k (.keyBlank 11)) ∧
      (Fault.keyBlank 11).message = "Empty key symbol defined for key 0xb" := by
  obtain ⟨keymap, accepted⟩ := (parse_settles standard).1.2 (by decide +kernel)
  have works := (parse_settles standard).2.2.2 (Keypad.ofKeymap keymap) accepted
  have spoilt := (parse_settles "x,1,2,3,q,w,e,a,s,d,z, ,Z,r,f,v").2.2.1 (by decide +kernel)
  refine ⟨⟨keymap, accepted, works, (works.named "Q" 4).2 (by decide +kernel)⟩,
    (parse_settles "x,1,2").2.1 (by decide +kernel), (spoilt _).1 (by decide +kernel), ?_⟩
  decide +kernel

end Chip8
