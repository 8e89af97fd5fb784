import Chip8.Keypad
import Mathlib.Data.List.Nodup

namespace Chip8

namespace Keymap

variable {keymap : Keymap} {symbol : String} {key : Nibble}

structure Proper (keymap : Keymap) : Prop where
  symbols : (keymap.map Prod.fst).Nodup
  keys : (keymap.map Prod.snd).Nodup

theorem lookup_eq_some_iff (symbols : (keymap.map Prod.fst).Nodup) :
    keymap.lookup symbol = some key ↔ (symbol, key) ∈ keymap := by
  rw [List.lookup_eq_some_iff]
  constructor
  · rintro ⟨before, after, rfl, -⟩
    simp
  · intro member
    obtain ⟨before, after, rfl⟩ := List.append_of_mem member
    refine ⟨before, after, rfl, fun entry earlier => ?_⟩
    rw [List.map_append, List.nodup_append] at symbols
    exact bne_iff_ne.2 fun same =>
      symbols.2.2 entry.1 (List.mem_map_of_mem earlier) symbol (.head _) same.symm

theorem Proper.key?_eq_some_iff (proper : keymap.Proper) :
    keymap.key? symbol = some key ↔ (Text.lower symbol, key) ∈ keymap :=
  lookup_eq_some_iff proper.symbols

theorem Proper.symbol_eq (proper : keymap.Proper) {other : String} (one : (symbol, key) ∈ keymap)
    (two : (other, key) ∈ keymap) : other = symbol :=
  congrArg Prod.fst (List.inj_on_of_nodup_map proper.keys two one rfl)

theorem Proper.key_eq (proper : keymap.Proper) {other : Nibble} (one : (symbol, key) ∈ keymap)
    (two : (symbol, other) ∈ keymap) : other = key :=
  congrArg Prod.snd (List.inj_on_of_nodup_map proper.symbols two one rfl)

end Keymap

namespace Latch

variable {latch : Latch} {key : Nibble}

def Idle (latch : Latch) : Prop :=
  ∀ key, latch.get key = false

def Lowest (latch : Latch) (key : Nibble) : Prop :=
  latch.get key = true ∧ ∀ lower < key, latch.get lower = false

theorem get_released (key : Nibble) : released.get key = false := by
  change (Vector.replicate 16 false)[key.val] = false
  exact Vector.getElem_replicate _

theorem firstDown_eq_none_iff : latch.firstDown = none ↔ latch.Idle := by
  unfold firstDown
  rw [List.find?_eq_none]
  simp [Idle]

theorem firstDown_eq_some_iff : latch.firstDown = some key ↔ latch.Lowest key := by
  unfold firstDown Lowest
  rw [List.find?_eq_some_iff_getElem]
  refine and_congr_right fun _ => ⟨?_, fun lowest => ⟨key, by simp, by simp, fun j below => ?_⟩⟩
  · rintro ⟨i, inside, rfl, lowest⟩ lower below
    simpa using lowest lower (by simpa [Fin.lt_def] using below)
  · have inside : j < 16 := by omega
    simpa using lowest ⟨j, inside⟩ below

theorem firstDown_of_idle (idle : latch.Idle) : latch.firstDown = none :=
  firstDown_eq_none_iff.2 idle

theorem firstDown_of_lowest (lowest : latch.Lowest key) : latch.firstDown = some key :=
  firstDown_eq_some_iff.2 lowest

theorem isDown_eq_get {code : Int} (low : (key.val : Int) = code % 16) :
    latch.isDown code = latch.get key := by
  have same : (code % 16).toNat = key.val := by omega
  exact congrArg latch.get (Fin.ext same)

end Latch

namespace Keypad

variable {keypad : Keypad} {symbol : String} {down : Bool} {key : Nibble}

@[simp] theorem keymap_set : (keypad.set symbol down).keymap = keypad.keymap := by
  unfold set
  split <;> rfl

theorem get_latch_set :
    (keypad.set symbol down).latch.get key =
      if keypad.keymap.key? symbol = some key then down else keypad.latch.get key := by
  unfold set
  split
  · rename_i other found
    rw [found]
    change (keypad.latch.set other down)[key.val] = _
    rw [Vector.getElem_set]
    simp only [Option.some.injEq, Fin.ext_iff]
    rfl
  · rename_i unmapped
    rw [unmapped]
    rfl

end Keypad

end Chip8
