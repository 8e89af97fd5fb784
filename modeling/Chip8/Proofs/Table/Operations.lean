import Chip8.Proofs.Memory.Stores
import Chip8.Proofs.Table.View

namespace Chip8

namespace Machine

variable {m : Machine}

theorem keyDown_eq (m : Machine) (x : Nibble) :
    m.keyDown x = m.console.down (Fin.ofNat 16 (m.console.v x)) := by
  have located : (⟨(((m.register x).toNat : Int) % 16).toNat, by omega⟩ : Fin 16) =
      Fin.ofNat 16 (m.register x).toNat := by
    apply Fin.ext
    simp only [Fin.ofNat]
    omega
  exact congrArg (fun key : Fin 16 => m.keypad.latch.get key) located

theorem WellFormed.parked (h : m.WellFormed) (x : Nibble) :
    { m.retreat with
      processor.keyRegister := x
      processor.phase := .awaitingKey }.WellFormed where
  pc := by
    change 0 ≤ (m.processor.pc - 2) % 4096 ∧ (m.processor.pc - 2) % 4096 < 4096
    omega
  index := h.index
  stack := h.stack
  screen := h.screen

theorem console_poll (h : m.WellFormed) :
    m.poll.console =
      match (List.finRange 16).find? m.console.down with
      | none => m.console
      | some key =>
        { m.console.next.set m.console.keyRegister key with phase := .running } := by
  have keys : m.keypad.latch.firstDown = (List.finRange 16).find? m.console.down := rfl
  unfold poll
  rw [keys]
  cases (List.finRange 16).find? m.console.down with
  | none => rfl
  | some key =>
    have advanced := console_advance (m := m.setRegister m.processor.keyRegister (UInt8.ofNat key))
      ⟨h.pc, h.index, h.stack, h.screen⟩
    have byte : (UInt8.ofNat key.val).toNat = key.val := by
      rw [UInt8.toNat_ofNat']
      omega
    rw [console_setRegister, byte] at advanced
    exact congrArg (fun c : Console => { c with phase := .running }) advanced

theorem console_beginWait {before : Console} (h : m.WellFormed) (x : Nibble)
    (ahead : m.console = before.next) (range : before.pc < 4096)
    (running : before.phase = .running) :
    (m.beginWait x).console = before.await x := by
  have low := h.pc
  have pc : m.processor.pc.toNat = (before.pc + 2) % 4096 := congrArg Console.pc ahead
  -- Going back undoes the fetch, also around the top of memory.
  have back : ((m.processor.pc - 2) % 4096).toNat = before.pc := by omega
  have parked : { m.retreat with
      processor.keyRegister := x
      processor.phase := .awaitingKey }.console =
      { before with keyRegister := x, phase := .awaitingKey } := by
    change { m.console with
      pc := ((m.processor.pc - 2) % 4096).toNat
      keyRegister := x
      phase := .awaitingKey } = _
    rw [ahead, back]
    rfl
  unfold beginWait
  rw [console_poll (h.parked x), parked]
  unfold Console.await
  cases (List.finRange 16).find? before.down with
  | none => rfl
  | some key =>
    simp only [Console.next, Console.set, running]

theorem console_loadUpTo (h : m.WellFormed) (x : Nibble) :
    (m.loadUpTo x).console =
      { m.console with
        v := fun k => if k ≤ x then m.console.cell (m.console.i + k) else m.console.v k } := by
  have range := h.index
  apply Console.ext
  case v =>
    funext k
    have stored : (m.memory.byte (m.processor.i + (k.val : Nat))).toNat =
        m.console.cell (m.console.i + k) := by
      apply byte_toNat
      change _ = ((m.processor.i.toNat + k.val : Nat) : Int)
      omega
    simp only [console, register, loadUpTo, Bank.get_eq, Vector.getElem_mapIdx, ← Fin.le_def]
    split
    · exact stored
    · rfl
  all_goals rfl

theorem covers_iff (h : m.WellFormed) (x y rows : Nibble) (column : Fin 64) (line : Fin 32) :
    Screen.Covers 64 32 (m.register x).toNat (m.register y).toNat (m.spriteRows rows)
        (Screen.locate 64 32 column line) ↔
      m.console.covers x y rows column line = true := by
  have range := h.index
  have bit : ∀ i j : Nat, Screen.rowBit (m.memory.byte (m.processor.i + i)).toNat j =
      (m.console.cell (m.console.i + i)).testBit (7 - j) := by
    intro i j
    have bound := (m.memory.byte (m.processor.i + i)).toNat_lt
    have same : m.processor.i + (i : Int) = ((m.console.i + i : Nat) : Int) := by
      change _ = ((m.processor.i.toNat + i : Nat) : Int)
      omega
    rw [← byte_toNat m same, Screen.rowBit]
    congr 1
    omega
  have same : ∀ i j : Nat,
      Screen.locate 64 32 (((m.register x).toNat : Int) + j) (((m.register y).toNat : Int) + i) =
        Screen.locate 64 32 column line ↔
      (m.console.v x + j) % 64 = column ∧ (m.console.v y + i) % 32 = line := by
    intro i j
    rw [Screen.locate_eq_iff (by omega) (by omega)]
    change _ ↔ ((m.register x).toNat + j) % 64 = column ∧ ((m.register y).toNat + i) % 32 = line
    omega
  unfold Screen.Covers Console.covers
  simp only [Screen.mem_points, List.any_eq_true, List.mem_range, Bool.and_eq_true, beq_iff_eq]
  constructor
  · rintro ⟨place, ⟨i, hi, j, hj, set, rfl⟩, located⟩
    have inside : i < rows.val := by simpa [spriteRows] using hi
    simp only [spriteRows, List.getElem_map, List.getElem_range, bit] at set
    obtain ⟨right, below⟩ := (same i j).1 located
    exact ⟨i, inside, j, hj, ⟨set, right⟩, below⟩
  · rintro ⟨i, hi, j, hj, ⟨set, right⟩, below⟩
    have inside : i < (m.spriteRows rows).length := by simpa [spriteRows] using hi
    refine ⟨_, ⟨i, inside, j, hj, ?_, rfl⟩, (same i j).2 ⟨right, below⟩⟩
    simp only [spriteRows, List.getElem_map, List.getElem_range, bit]
    exact set

theorem spriteRows_length (m : Machine) (rows : Nibble) :
    (m.spriteRows rows).length ≤ 32 := by
  simp only [spriteRows, List.length_map, List.length_range]
  omega

theorem pixel_draw (h : m.WellFormed) (x y rows : Nibble) (column : Fin 64) (line : Fin 32) :
    ((m.screen.draw (m.register x).toNat (m.register y).toNat (m.spriteRows rows)).1.pixel
        column line).toNat =
      if m.console.covers x y rows column line then 1 - m.console.pixel column line
      else m.console.pixel column line := by
  have inside := Screen.locate_lt (show 0 < 64 by omega) (show 0 < 32 by omega) column line
  have cells := Screen.cells_draw (show 8 ≤ 64 by omega) m.screen (m.register x).toNat
    (m.register y).toNat (m.spriteRows rows) (m.spriteRows_length rows) inside
  have covered := covers_iff h x y rows column line
  have old := pixel_toNat m inside rfl
  have toggled := toNat_toggled (h.screen _ inside)
  rw [Screen.pixel, Array.getD_eq_getD_getElem?]
  rw [Array.getElem?_eq_getElem (by simpa using inside)]
  simp only [Option.getD_some, Vector.getElem_toArray, cells]
  by_cases hit : m.console.covers x y rows column line = true
  · rw [if_pos (covered.2 hit), if_pos hit, toggled, old]
  · rw [if_neg (fun c => hit (covered.1 c)), if_neg hit, old]

theorem draw_collides_iff (h : m.WellFormed) (x y rows : Nibble) :
    (m.screen.draw (m.register x).toNat (m.register y).toNat (m.spriteRows rows)).2 = true ↔
      ∃ column line, m.console.covers x y rows column line ∧ m.console.pixel column line = 1 := by
  rw [Screen.draw_collides (by omega) _ _ _ _ (m.spriteRows_length rows)]
  constructor
  · rintro ⟨k, hk, covered, lit⟩
    obtain ⟨column, line, located⟩ := locate_surjective hk
    refine ⟨column, line, (covers_iff h x y rows _ _).1 ?_, ?_⟩
    · rw [located]
      exact covered
    · rw [← pixel_toNat m hk located, lit]
      rfl
  · rintro ⟨column, line, covered, lit⟩
    have inside := Screen.locate_lt (show 0 < 64 by omega) (show 0 < 32 by omega) column line
    refine ⟨_, inside, (covers_iff h x y rows column line).2 covered, ?_⟩
    apply UInt8.toNat_inj.1
    rw [pixel_toNat m inside rfl, lit]
    rfl

theorem console_drawSprite (h : m.WellFormed) (x y rows : Nibble) :
    (m.drawSprite x y rows).console = m.console.draw x y rows := by
  unfold drawSprite Console.draw
  refine (console_setFlag _ _).trans (congrArg₂ Console.setFlag ?_ ?_)
  · apply Console.ext
    case pixel =>
      funext column line
      exact pixel_draw h x y rows column line
    all_goals rfl
  · exact if_congr (draw_collides_iff h x y rows) rfl rfl

theorem firstReserved_eq_none_iff (h : m.WellFormed) (count : Nat) :
    Memory.firstReserved m.processor.i count = none ↔ m.console.storable count = true := by
  have range := h.index
  unfold Memory.firstReserved Console.storable
  rw [List.find?_eq_none, List.all_eq_true]
  refine forall₂_congr fun k _ => ?_
  simp only [decide_eq_true_eq]
  change _ ↔ 0x200 ≤ (m.processor.i.toNat + k) % 4096
  omega

theorem WellFormed.registers (h : m.WellFormed) (v : Bank 16) :
    { m with processor.v := v }.WellFormed :=
  ⟨h.pc, h.index, h.stack, h.screen⟩

theorem WellFormed.memory (h : m.WellFormed) (memory : Memory) : { m with memory }.WellFormed :=
  ⟨h.pc, h.index, h.stack, h.screen⟩

theorem console_memory (m : Machine) (memory : Memory) :
    { m with memory }.console =
      { m.console with memory := fun address => (memory.get address).toNat } := rfl

theorem laid_toNat (h : m.WellFormed) (bytes : List UInt8) (fits : bytes.length ≤ 4096)
    (address : Address) :
    ((m.memory.laid m.processor.i bytes).get address).toNat =
      ((List.range bytes.length).find? fun k => (m.console.i + k) % 4096 == address.val).elim
        (m.console.memory address) fun k => (bytes.getD k 0).toNat := by
  have range := h.index
  have same : ∀ k : Nat, ((m.processor.i + k) % 4096 == (address.val : Int)) =
      ((m.console.i + k) % 4096 == address.val) := by
    intro k
    rw [Bool.eq_iff_iff, beq_iff_eq, beq_iff_eq]
    change _ ↔ (m.processor.i.toNat + k) % 4096 = address.val
    omega
  rw [Memory.get_laid fits address]
  simp only [same]
  cases (List.range bytes.length).find? fun k => (m.console.i + k) % 4096 == address.val <;> rfl

def outcome (action : EStateM Fault Machine Unit) (m : Machine) : Option Console :=
  match action m with
  | .ok () next => some next.console
  | .error _ _ => none

theorem outcome_storeAtIndex (h : m.WellFormed) (bytes : List UInt8) (fits : bytes.length ≤ 4096) :
    outcome (storeAtIndex bytes) m =
      m.console.store bytes.length fun k => (bytes.getD k 0).toNat := by
  have stored := Memory.storeAll_eq m.memory m.processor.i bytes fits
  unfold outcome Console.store
  rw [storeAtIndex_eq]
  cases reserved : Memory.firstReserved m.processor.i bytes.length with
  | none =>
    rw [reserved] at stored
    rw [stored, if_pos ((firstReserved_eq_none_iff h _).1 reserved)]
    dsimp only
    rw [console_memory]
    simp only [laid_toNat h bytes fits]
  | some k =>
    have refused : ¬ m.console.storable bytes.length = true := by
      intro storable
      rw [(firstReserved_eq_none_iff h _).2 storable] at reserved
      cases reserved
    rw [reserved] at stored
    rw [stored, if_neg refused]

end Machine

end Chip8
