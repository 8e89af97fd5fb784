import Chip8.Memory.Agreement
import Chip8.Proofs.History

namespace Chip8

namespace Memory

theorem store_keeps_area {memory next : Memory} {address : Int} {value : UInt8}
    (stored : memory.store address value = .ok next) {k : Address} (low : k.val < 0x200) :
    next.get k = memory.get k := by
  unfold store at stored
  split at stored
  · cases stored
  · rename_i high
    cases stored
    have apart : (place address).val ≠ k.val := by
      unfold programStart at high
      omega
    exact Vector.getElem_set_ne _ _ apart

theorem image_area (program : Array UInt8) {k : Address} (low : k.val < 0x200) :
    (image program).get k = font.getD k.val 0 := by
  have below : k.val < programStart := low
  rw [Bank.get_eq, image, Vector.getElem_ofFn, if_pos below]

theorem bind_of_eq_ok {α β : Type} {action : Except Fault α} {a : α} (done : action = .ok a)
    (next : α → Except Fault β) : action >>= next = next a := by
  rw [done]
  rfl

theorem rebuild_eq_image (memory : Memory) {program : Array UInt8} {room : Room}
    (fits : program.size ≤ programSpace) (free : hasRoom room 4096 = true) :
    (Bank.clear memory room >>= fun cleared => cleared.loadFont >>= fun lettered =>
      lettered.loadProgram program) = .ok (image program) := by
  have cleared := Bank.clear_eq_ok memory free (by decide)
  exact (bind_of_eq_ok cleared _).trans (load_eq_image fits)

end Memory

namespace Machine

/-- The interpreter's part of memory is as it was built, and the stored program fits above it. -/
structure Guarded (m : Machine) : Prop where
  program : m.program.size ≤ Memory.programSpace
  area : ∀ k : Address, k.val < 0x200 → m.memory.get k = Memory.font.getD k.val 0

theorem guarded_new (settings : Settings) (keymap : Keymap) (noise : Noise) :
    (new settings keymap noise).Guarded where
  program := Nat.zero_le _
  area _ low := Memory.image_area _ low

theorem guarded_reset {m : Machine} (fits : m.program.size ≤ Memory.programSpace) :
    m.reset.Guarded where
  program := fits
  area _ low := Memory.image_area _ low

theorem guarded_invariant : Invariant Guarded where
  registers h _ := ⟨h.program, h.area⟩
  jump h _ _ := ⟨h.program, h.area⟩
  index h _ _ := ⟨h.program, h.area⟩
  park h _ _ := ⟨h.program, h.area⟩
  darken h := ⟨h.program, h.area⟩
  draw h _ _ _ := ⟨h.program, h.area⟩
  time h _ := ⟨h.program, h.area⟩
  noise h := ⟨h.program, h.area⟩
  store h stored :=
    ⟨h.program, fun k low => (Memory.store_keeps_area stored low).trans (h.area k low)⟩
  call h _ := ⟨h.program, h.area⟩
  ret h _ := ⟨h.program, h.area⟩
  fetch h := ⟨h.program, h.area⟩
  print h _ := ⟨h.program, h.area⟩
  load _ checked := guarded_reset (Memory.checkProgram_eq_ok_iff.1 checked)
  reset h := guarded_reset h.program
  count h := ⟨h.program, h.area⟩
  keys h _ := ⟨h.program, h.area⟩

/-- Whatever programs are loaded and run, and however their steps fail, the first 80 cells hold the
font and those up to 0x200 zeros, and a reset can build memory anew where there is room for it. -/
theorem history_keeps_interpreter_area {τ σ : Type} (host : Host τ σ) (world : σ)
    (settings : Settings) (keymap : Keymap) (noise : Noise) (operations : List Operation) :
    let m := (Operation.history host operations (new settings keymap noise, world)).1
    (∀ k : Address, k.val < 0x50 → Memory.font[k.val]? = some (m.memory.get k)) ∧
    (∀ k : Address, 0x50 ≤ k.val → k.val < 0x200 → m.memory.get k = 0) ∧
    ∀ room, hasRoom room 4096 = true →
      (Bank.clear m.memory room >>= fun cleared => cleared.loadFont >>= fun lettered =>
        lettered.loadProgram m.program) = .ok m.reset.memory := by
  intro m
  have guarded : m.Guarded :=
    guarded_invariant.history host operations _ (guarded_new settings keymap noise)
  have fontSize := Memory.size_font
  refine ⟨?_, ?_, fun room => Memory.rebuild_eq_image m.memory guarded.program⟩
  · intro k low
    rw [guarded.area k (by omega), Array.getElem?_eq_getElem (by omega)]
    simp [Array.getD, fontSize, low]
  · intro k high low
    rw [guarded.area k low]
    exact Memory.getD_beyond _ (by omega)

end Machine

end Chip8
