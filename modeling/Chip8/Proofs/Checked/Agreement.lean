import Chip8.Memory.Agreement
import Chip8.Proofs.Bytes
import Chip8.Proofs.Checked
import Chip8.Proofs.Invariant
import Chip8.Proofs.Screen.Toggling

namespace Chip8.Machine.Checked

variable {m next : Machine}

theorem run_then {α β : Type} {action : EStateM Fault Machine α} {a : α}
    {rest : α → EStateM Fault Machine β} {result : EStateM.Result Fault Machine β}
    (done : action m = .ok a next) (after : rest a next = result) :
    (action >>= rest) m = result := by
  change EStateM.bind action rest m = _
  unfold EStateM.bind
  rw [done]
  exact after

theorem run_failed {α β : Type} {action : EStateM Fault Machine α} {fault : Fault}
    (failed : action m = .error fault next) (rest : α → EStateM Fault Machine β) :
    (action >>= rest) m = .error fault next := by
  change EStateM.bind action rest m = _
  unfold EStateM.bind
  rw [failed]

theorem run_get (m : Machine) : (get : EStateM Fault Machine Machine) m = .ok m m := rfl

theorem run_attempt {α : Type} {result : Except Fault α} {a : α} (done : result = .ok a) :
    attempt result m = .ok a m := by
  rw [done]
  rfl

theorem fits_of_lt {location : Int} {size : Nat} (small : size ≤ 4096)
    (range : 0 ≤ location ∧ location < size) : fits location = true := by
  simp only [fits, Bool.and_eq_true, decide_eq_true_eq]
  unfold maxExtent
  omega

theorem register_run (m : Machine) (x : Nibble) :
    register x m = .ok (m.register x).toNat m := by
  have inside : 0 ≤ (x.val : Int) ∧ (x.val : Int) < (16 : Nat) := by omega
  have read := Bank.read_eq_ok m.processor.v inside (fits_of_lt (by omega) inside)
  exact run_then (run_get m) (run_then (run_attempt read) rfl)

theorem setRegister_run (m : Machine) (x : Nibble) {byte : UInt8} {value : Int}
    (same : value = byte.toNat) : setRegister x value m = .ok () (m.setRegister x byte) := by
  have bound := byte.toNat_lt
  have inside : 0 ≤ (x.val : Int) ∧ (x.val : Int) < (16 : Nat) := by omega
  have put := Bank.put_eq_ok m.processor.v inside (fits_of_lt (by omega) inside)
    (show 0 ≤ value ∧ value ≤ 255 by omega)
  apply run_then (run_attempt put)
  subst same
  simp [Machine.setRegister]
  rfl

theorem setFlag_run (m : Machine) (condition : Bool) :
    setFlag condition m = .ok () (m.setFlag condition) := by
  apply setRegister_run
  cases condition <;> rfl

theorem byte_run (m : Machine) (address : Int) :
    byte address m = .ok (m.memory.byte address).toNat m :=
  run_then (run_get m) (run_then (run_attempt (Memory.readMasked_eq m.memory address)) rfl)

theorem store_run (m : Machine) (address : Int) {byte : UInt8} {value : Int}
    (same : value = byte.toNat) :
    store address value m =
      match m.memory.store address byte with
      | .ok memory => .ok () { m with memory }
      | .error fault => .error fault m := by
  have bound := byte.toNat_lt
  have low : lowByte value = byte := by
    apply UInt8.toNat_inj.1
    have whole := toNat_lowByte value
    omega
  change (attempt (m.memory.writeMasked address value) >>= fun memory =>
    set { m with memory }) m = _
  rw [Memory.writeMasked_eq, low]
  cases m.memory.store address byte <;> rfl

theorem keyDown_run (m : Machine) (key : Int) :
    keyDown key m = .ok (m.keypad.latch.isDown key) m := by
  have inside : 0 ≤ key % 16 ∧ key % 16 < (16 : Nat) := by omega
  have named := Bank.cell_eq_ok inside (fits_of_lt (by omega) inside)
  exact run_then (run_get m) (run_then (run_attempt named) rfl)

theorem toggle_run (m : Machine) (x y : Int) :
    toggle x y m = .ok (m.screen.toggle x y).2 { m with screen := (m.screen.toggle x y).1 } := by
  have located : (y % 32 * 64 + x % 64).toNat = Screen.locate 64 32 x y := rfl
  have inside : 0 ≤ y % 32 * 64 + x % 64 ∧ y % 32 * 64 + x % 64 < (64 * 32 : Nat) := by omega
  have narrow := fits_of_lt (by omega) inside
  have read := Bank.read_eq_ok m.screen.cells inside narrow
  have write (value : UInt8) :
      Bank.write m.screen.cells (y % 32 * 64 + x % 64) value.toNat =
        .ok (m.screen.cells.set (y % 32 * 64 + x % 64).toNat value (by omega)) := by
    have bound := value.toNat_lt
    unfold Bank.write
    rw [Bank.checkOverflow_eq_ok_iff.2 inside.2]
    have put := Bank.put_eq_ok m.screen.cells inside narrow
      (show 0 ≤ (value.toNat : Int) ∧ (value.toNat : Int) ≤ 255 by omega)
    refine Eq.trans put ?_
    simp
  have pixel : m.screen.pixel x y = m.screen.cells[(y % 32 * 64 + x % 64).toNat] := by
    have below : (y % 32 * 64 + x % 64).toNat < 64 * 32 := by omega
    simp [Screen.pixel, ← located, below]
  have cells : m.screen.cells.set (y % 32 * 64 + x % 64).toNat
      (m.screen.cells[(y % 32 * 64 + x % 64).toNat] ^^^ 1) (by omega) =
      (m.screen.toggle x y).1.cells := by
    apply Vector.ext
    intro k hk
    rw [Screen.cells_toggle _ _ _ hk, Vector.getElem_set, ← located]
    by_cases here : (y % 32 * 64 + x % 64).toNat = k
    · simp only [here, if_true]
    · rw [if_neg here, if_neg here]
  apply run_then (run_attempt read)
  apply run_then (run_attempt (write _))
  simp only [Fin.getElem_fin]
  rw [cells, ← pixel]
  rfl

theorem toggleAll_run (m : Machine) (places : List (Int × Int)) :
    toggleAll places m =
      .ok (m.screen.toggleAll places).2 { m with screen := (m.screen.toggleAll places).1 } := by
  induction places generalizing m with
  | nil => rfl
  | cons place places ih =>
    obtain ⟨x, y⟩ := place
    exact run_then (toggle_run m x y) (run_then (ih _) rfl)

theorem sprite_run (m : Machine) (address : Int) (row count : Nat) :
    sprite address row count m =
      .ok ((List.range' row count).map fun (k : Nat) => ((m.memory.byte (address + k)).toNat : Int))
        m := by
  induction count generalizing row with
  | zero => rfl
  | succ count ih => exact run_then (byte_run m _) (run_then (ih (row + 1)) rfl)

/-- A value that is read as some byte wherever the registers are these. -/
def Yields (v : Bank 16) (value : EStateM Fault Machine Nat) (byte : UInt8) : Prop :=
  ∀ m : Machine, m.processor.v = v → value m = .ok byte.toNat m

theorem storeEach_run {v : Bank 16} (m : Machine) (address : Int)
    {values : List (EStateM Fault Machine Nat)} {bytes : List UInt8} (registers : m.processor.v = v)
    (yields : List.Forall₂ (Yields v) values bytes) :
    storeEach address values m =
      match (m.memory.storeAll address bytes).2 with
      | none => .ok () { m with memory := (m.memory.storeAll address bytes).1 }
      | some fault => .error fault { m with memory := (m.memory.storeAll address bytes).1 } := by
  induction yields generalizing m address with
  | nil => rfl
  | @cons value byte values bytes head tail ih =>
    -- The stores before a value is read leave the registers alone, so it is read as the same byte.
    have stored := store_run m address (show _ = (byte.toNat : Int) from rfl)
    apply run_then (head m registers)
    unfold Memory.storeAll
    cases done : m.memory.store address byte with
    | error fault =>
      rw [done] at stored
      exact run_failed stored _
    | ok memory =>
      rw [done] at stored
      exact run_then stored (ih { m with memory } (address + 1) registers)

theorem loadFrom_run (m : Machine) (address : Int) (k count : Nat) (inside : k + count ≤ 16) :
    loadFrom address k count m =
      .ok () { m with processor.v := m.processor.v.mapIdx fun j old =>
        if k ≤ j ∧ j < k + count then m.memory.byte (address + j) else old } := by
  induction count generalizing m k with
  | zero =>
    have same : (m.processor.v.mapIdx fun j old =>
        if k ≤ j ∧ j < k + 0 then m.memory.byte (address + j) else old) = m.processor.v := by
      apply Vector.ext
      intro j hj
      rw [Vector.getElem_mapIdx, if_neg (by omega)]
    rw [same]
    rfl
  | succ count ih =>
    have loaded := setRegister_run m ⟨k, by omega⟩
      (show _ = ((m.memory.byte (address + k)).toNat : Int) from rfl)
    apply run_then (byte_run m (address + k))
    apply run_then loaded
    refine (ih _ (k + 1) (by omega)).trans ?_
    refine congrArg (EStateM.Result.ok ()) (congrArg (fun v => { m with processor.v := v }) ?_)
    apply Vector.ext
    intro j hj
    simp only [Machine.setRegister, Vector.getElem_mapIdx, Vector.getElem_set]
    by_cases here : k = j
    · subst here
      rw [if_neg (by omega), if_pos rfl, if_pos (by omega)]
    · rw [if_neg here]
      exact if_congr (by omega) rfl rfl

theorem combine_run (m : Machine) (x y : Nibble) {f : UInt8 → UInt8 → UInt8} {g : Nat → Nat → Int}
    (same : ∀ a b, g a.toNat b.toNat = (f a b).toNat) :
    combine x y g m = .ok () (m.combine x y f) := by
  apply run_then (register_run m x)
  apply run_then (register_run m y)
  exact setRegister_run m x (same _ _)

theorem combineFlag_run (m : Machine) (x y : Nibble) {f : UInt8 → UInt8 → UInt8}
    {g : Nat → Nat → Int} {flag : UInt8 → UInt8 → Bool} {condition : Nat → Nat → Bool}
    (same : ∀ a b, g a.toNat b.toNat = (f a b).toNat)
    (flagged : ∀ a b, condition a.toNat b.toNat = flag a b) :
    combineFlag x y g condition m = .ok () (m.combineFlag x y f flag) := by
  apply run_then (register_run m x)
  apply run_then (register_run m y)
  apply run_then (setRegister_run m x (same _ _))
  rw [flagged]
  exact setFlag_run _ _

theorem clearFlag_run (m : Machine) :
    clearFlag m =
      .ok () (if m.settings.dialect.clearsFlag then m.setRegister flagRegister 0 else m) := by
  change (if m.settings.dialect.clearsFlag then setRegister flagRegister 0 else pure ()) m = _
  split
  · exact setRegister_run m flagRegister rfl
  · rfl

theorem operand_run (m : Machine) (x y : Nibble) :
    operand x y m = .ok (m.shiftOperand x y).toNat m := by
  change (if m.settings.dialect.shiftsSecond then register y else register x) m = _
  unfold shiftOperand
  split
  · exact register_run m y
  · exact register_run m x

theorem logic_run (m : Machine) (x y : Nibble) {f : UInt8 → UInt8 → UInt8} {g : Nat → Nat → Int}
    (same : ∀ a b, g a.toNat b.toNat = (f a b).toNat) :
    (do combine x y g; clearFlag) m = .ok () (m.combineLogic x y f) :=
  run_then (combine_run m x y same) (clearFlag_run _)

theorem shift_run (m : Machine) (x y : Nibble) (f : UInt8 → UInt8) (bit : UInt8 → Bool)
    {g h : Nat → Nat} (same : ∀ a, (f a).toNat = g a.toNat)
    (flagged : ∀ a, (if bit a then 1 else 0) = h a.toNat) :
    shift x y g h m =
      .ok () ((m.setRegister x (f (m.shiftOperand x y))).setFlag (bit (m.shiftOperand x y))) := by
  have written := setRegister_run m x (congrArg Nat.cast (same (m.shiftOperand x y)).symm)
  apply run_then (operand_run m x y)
  apply run_then written
  apply setRegister_run
  rw [toNat_bit, flagged]

theorem poll_run (m : Machine) : poll m = .ok () m.poll := by
  unfold Machine.poll
  apply run_then (run_get m)
  cases m.keypad.latch.firstDown with
  | none => rfl
  | some key =>
    have byte : ((key.val : Nat) : Int) = (UInt8.ofNat key.val).toNat := by
      rw [UInt8.toNat_ofNat']
      omega
    exact run_then (setRegister_run m m.processor.keyRegister byte) rfl

variable {room : Room}

theorem storeDecimal_run (m : Machine) (x : Nibble) :
    execute room (.storeDecimal x) m = Machine.execute (.storeDecimal x) m := by
  have digits : List.Forall₂ (Yields m.processor.v)
      [return (m.register x).toNat / 100, return (m.register x).toNat / 10 % 10,
        return (m.register x).toNat % 10] (decimalDigits (m.register x)) := by
    refine .cons ?_ (.cons ?_ (.cons ?_ .nil))
    · intro n _
      rw [UInt8.toNat_div]
      rfl
    · intro n _
      rw [UInt8.toNat_mod, UInt8.toNat_div]
      rfl
    · intro n _
      rw [UInt8.toNat_mod]
      rfl
  apply run_then (register_run m x)
  apply run_then (run_get m)
  exact storeEach_run m m.processor.i rfl digits

theorem yields_registers (m : Machine) (x : Nibble) :
    List.Forall₂ (Yields m.processor.v) ((List.range (x + 1)).map fun (k : Nat) => register k)
      (m.registersUpTo x) := by
  have length := m.length_registersUpTo x
  rw [List.forall₂_iff_get]
  refine ⟨by simp [length], ?_⟩
  intro k hk hk' n same
  have inside : k < 16 := by omega
  have read := register_run n ⟨k, inside⟩
  simpa [registersUpTo, Machine.register, Bank.get_eq, same] using read

theorem storeRegisters_run (m : Machine) (x : Nibble) :
    execute room (.storeRegisters x) m = Machine.execute (.storeRegisters x) m := by
  have stored := storeEach_run m m.processor.i rfl (yields_registers m x)
  rw [execute_storeRegisters]
  apply run_then (run_get m)
  cases done : (m.memory.storeAll m.processor.i (m.registersUpTo x)).2 with
  | none =>
    rw [done] at stored
    exact run_then stored rfl
  | some fault =>
    rw [done] at stored
    exact run_failed stored _

theorem loadRegisters_run (m : Machine) (x : Nibble) :
    execute room (.loadRegisters x) m = Machine.execute (.loadRegisters x) m := by
  have loaded := loadFrom_run m m.processor.i 0 (x + 1) (by omega)
  have registers : (m.processor.v.mapIdx fun j old =>
      if 0 ≤ j ∧ j < 0 + (x.val + 1) then m.memory.byte (m.processor.i + j) else old) =
      (m.loadUpTo x).processor.v := by
    apply Vector.ext
    intro j hj
    unfold loadUpTo
    rw [Vector.getElem_mapIdx, Vector.getElem_mapIdx]
    exact if_congr (by omega) rfl rfl
  rw [registers] at loaded
  exact run_then (run_get m) (run_then loaded rfl)

theorem draw_run (m : Machine) (x y rows : Nibble) :
    execute room (.draw x y rows) m = Machine.execute (.draw x y rows) m := by
  have read := sprite_run m m.processor.i 0 rows
  rw [← List.range_eq_range'] at read
  apply run_then (register_run m x)
  apply run_then (register_run m y)
  apply run_then (run_get m)
  apply run_then read
  exact run_then (toggleAll_run m _) (setFlag_run _ _)

theorem execute_eq (free : hasRoom room 2048 = true) (instruction : Instruction)
    (m : Machine) : execute room instruction m = Machine.execute instruction m := by
  cases instruction with
  | sys | ret | jump | call | loadIndex | unmapped => rfl
  | clear =>
    have cleared := Bank.clear_eq_ok m.screen.cells free (by decide)
    apply run_then (run_get m)
    apply run_then (run_attempt cleared)
    rfl
  | skipIfByte x byte =>
    apply run_then (register_run m x)
    rw [beq_toNat]
    rfl
  | skipUnlessByte x byte =>
    apply run_then (register_run m x)
    unfold bne
    rw [beq_toNat]
    rfl
  | skipIfEqual x y =>
    apply run_then (register_run m x)
    apply run_then (register_run m y)
    rw [beq_toNat]
    rfl
  | skipIfDifferent x y =>
    apply run_then (register_run m x)
    apply run_then (register_run m y)
    unfold bne
    rw [beq_toNat]
    rfl
  | loadByte x byte => exact setRegister_run m x rfl
  | addByte x byte =>
    apply run_then (register_run m x)
    apply setRegister_run
    rw [UInt8.toNat_add]
    rfl
  | copy x y => exact run_then (register_run m y) (setRegister_run m x rfl)
  | or x y =>
    apply logic_run
    intro a b
    rw [UInt8.toNat_or]
  | and x y =>
    apply logic_run
    intro a b
    rw [UInt8.toNat_and]
  | xor x y =>
    apply logic_run
    intro a b
    rw [UInt8.toNat_xor]
  | add x y =>
    apply combineFlag_run
    · intro a b
      rw [UInt8.toNat_add]
      rfl
    · intro a b
      rfl
  | sub x y =>
    apply combineFlag_run
    · intro a b
      exact emod_difference a b
    · intro a b
      rfl
  | subReverse x y =>
    apply combineFlag_run
    · intro a b
      exact emod_difference b a
    · intro a b
      rfl
  | shiftRight x y => exact shift_run m x y (· >>> 1) (·.toNat.testBit 0) toNat_halved toNat_lsb
  | shiftLeft x y =>
    refine shift_run m x y (· <<< 1) (·.toNat.testBit 7) toNat_doubled ?_
    intro a
    have bound := a.toNat_lt
    rw [toNat_msb]
    omega
  | jumpOffset target => exact run_then (register_run m 0) rfl
  | random x mask => exact setRegister_run { m with noise := m.noise.rest } x rfl
  | draw x y rows => exact draw_run m x y rows
  | skipIfKey x =>
    exact run_then (register_run m x) (run_then (keyDown_run m _) rfl)
  | skipUnlessKey x =>
    exact run_then (register_run m x) (run_then (keyDown_run m _) rfl)
  | readDelay x => exact setRegister_run m x rfl
  | awaitKey x => exact poll_run _
  | setDelay x | setSound x | addIndex x | loadGlyph x => exact run_then (register_run m x) rfl
  | storeDecimal x => exact storeDecimal_run m x
  | storeRegisters x => exact storeRegisters_run m x
  | loadRegisters x => exact loadRegisters_run m x

/-- No access of a step ever fails. -/
theorem step_eq (free : hasRoom room 2048 = true) (m : Machine) :
    step room m = Machine.step m := by
  unfold Machine.step
  apply run_then (run_get m)
  cases m.processor.phase with
  | awaitingKey => exact poll_run m
  | running =>
    have word := run_attempt (m := m) (Memory.readWord_eq m.memory m.processor.pc)
    apply run_then word
    exact execute_eq free _ _

end Chip8.Machine.Checked
