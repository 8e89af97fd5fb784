import Chip8.Proofs.Bank.Store
import Chip8.Proofs.Invariant

namespace Chip8

namespace Bank

variable {size : Nat}

theorem writeBlock_eq_overflow (bank : Bank size) {start : Nat} {block : Array UInt8}
    (beyond : size < start + block.size) : bank.writeBlock start block = .error .bankOverflow := by
  have high : (start : Int) + block.size - 1 > size - 1 := by omega
  unfold writeBlock checkOverflow
  rw [if_pos high]
  rfl

theorem zeroFrom_eq_overflow (supply : Supply) (bank : Bank size) {offset length : Nat}
    (beyond : size < offset + length) :
    zeroFrom supply bank offset length = .error .bankOverflow := by
  have high : (offset : Int) + length - 1 > size - 1 := by omega
  unfold zeroFrom checkOverflow
  rw [if_pos high]
  rfl

theorem zeroFrom_of_granted {supply : Supply} (bank : Bank size) (offset : Int) {length : Nat}
    (narrow : fits length = true) (free : supply.block length = none) :
    zeroFrom supply bank offset length = bank.writeBlock offset (Array.replicate length 0) := by
  have made : granted supply.block length = .ok length := by
    rw [granted_of_fits narrow, free]
  unfold zeroFrom writeBlock
  rw [made, Array.size_replicate]
  rfl

theorem zeroFrom_of_refused {supply : Supply} (bank : Bank size) {offset length : Nat}
    (narrow : fits length = true) (inside : offset + length ≤ size) {fault : Fault}
    (refused : supply.block length = some fault) :
    zeroFrom supply bank offset length = .error fault := by
  have below : checkOverflow size (offset + length - 1) = .ok () :=
    checkOverflow_eq_ok_iff.2 (by omega)
  have made : granted supply.block length = .error fault := by
    rw [granted_of_fits narrow, refused]
  unfold zeroFrom
  rw [below, made]
  rfl

theorem fits_of_le {length : Nat} (narrow : fits size = true) (le : length ≤ size) :
    fits length = true := by
  simp only [fits, Bool.and_eq_true, decide_eq_true_eq] at narrow ⊢
  omega

theorem fits_of_granted {refusal : Nat → Option Fault} {n : Int} {bytes : Nat}
    (h : granted refusal n = .ok bytes) : fits bytes = true := by
  have asked := granted_eq_ok h
  cases counted : count n with
  | error fault =>
    rw [granted_of_count_eq_error counted] at h
    cases h
  | ok number =>
    rw [← asked]
    exact (count_eq_ok_iff.1 counted).1

theorem Call.fits_runWith {supply : Supply} {call : Call} {bank next : Sized}
    (narrow : fits bank.1 = true) (done : call.runWith supply bank = .ok next) :
    fits next.1 = true := by
  obtain ⟨size, bank⟩ := bank
  have kept {result : Except Fault (Bank size)} (same : result.map (Sigma.mk size) = .ok next) :
      fits next.1 = true := by
    cases result with
    | error fault => cases same
    | ok bank =>
      cases same
      exact narrow
  cases call with
  | resize n =>
    change (granted supply.bank n).map _ = _ at done
    cases made : granted supply.bank n with
    | error fault =>
      rw [made] at done
      cases done
    | ok bytes =>
      rw [made] at done
      cases done
      exact fits_of_granted made
  | write location value => exact kept done
  | writeBlock location block => exact kept done
  | zeroBlock offset length => exact kept done
  | clear => exact kept done

end Bank

namespace Store

open Bank

def after (supply : Supply) (calls : List Call) (s : Store) : Store :=
  calls.foldl (fun s call => stateAfter (perform supply call) s) s

def readBlock (s : Store) (location length : Int) : Array UInt8 :=
  s.cells.extract (boundary s.cells.size location) (boundary s.cells.size (location + length))

structure Laid (start : Nat) (block : Array UInt8) (s t : Store) : Prop where
  size : t.size = s.size
  top : t.top = s.top
  count : t.cells.size = s.cells.size
  taken : ∀ k, k < block.size → t.cells[start + k]? = block[k]?
  kept : ∀ k, k < start ∨ start + block.size ≤ k → t.cells[k]? = s.cells[k]?

variable {size : Nat} {supply : Supply}

theorem laid_overlay (bank : Bank size) {start : Nat} {block : Array UInt8}
    (inside : start + block.size ≤ size) :
    Laid start block (ofBank ⟨size, bank⟩) (ofBank ⟨size, bank.overlay start block⟩) where
  size := rfl
  top := rfl
  count := by simp [ofBank]
  taken k bound := by
    have cell : start + k < size := by omega
    have covered : start ≤ start + k ∧ start + k < start + block.size := by omega
    change (bank.overlay start block).toArray[start + k]? = _
    rw [Vector.getElem?_toArray, Vector.getElem?_eq_getElem cell, getElem_overlay, if_pos covered]
    simp [bound]
  kept k outside := by
    have uncovered : ¬ (start ≤ k ∧ k < start + block.size) := by omega
    change (bank.overlay start block).toArray[k]? = bank.toArray[k]?
    rw [Vector.getElem?_toArray, Vector.getElem?_toArray]
    rcases Nat.lt_or_ge k size with cell | beyond
    · rw [Vector.getElem?_eq_getElem cell, Vector.getElem?_eq_getElem cell, getElem_overlay,
        if_neg uncovered]
    · rw [Vector.getElem?_eq_none beyond, Vector.getElem?_eq_none beyond]

theorem Laid.readBlock {start : Nat} {block : Array UInt8} {s t : Store}
    (laid : Laid start block s t) (inside : start + block.size ≤ t.cells.size) :
    t.readBlock start block.size = block := by
  have low : boundary t.cells.size start = start := boundary_eq (by omega)
  have high : boundary t.cells.size (start + block.size) = start + block.size := by
    rw [← Int.natCast_add]
    exact boundary_eq inside
  unfold Store.readBlock
  rw [low, high]
  refine Array.ext_getElem? fun k => ?_
  rw [Array.getElem?_extract]
  rcases Nat.lt_or_ge k block.size with bound | beyond
  · have within : k < min (start + block.size) t.cells.size - start := by omega
    rw [if_pos within, laid.taken k bound]
  · have outside : ¬ k < min (start + block.size) t.cells.size - start := by omega
    rw [if_neg outside, Array.getElem?_eq_none beyond]

theorem after_ofBank (supply : Supply) (calls : List Call) {bank : Sized}
    (narrow : fits bank.1 = true) :
    ∃ last : Sized, fits last.1 = true ∧ after supply calls (ofBank bank) = ofBank last := by
  induction calls generalizing bank with
  | nil => exact ⟨bank, narrow, rfl⟩
  | cons call calls ih =>
    change ∃ last : Sized, _ ∧ after supply calls (stateAfter (perform supply call) _) = _
    unfold stateAfter
    rw [perform_ofBank]
    cases done : call.runWith supply bank with
    | ok next => exact ih (Call.fits_runWith narrow done)
    | error fault => exact ih narrow

/-- A result of laying a block: an overflow if the block ends beyond the last cell, and else a store
that has taken it. -/
structure Lays (start : Nat) (block : Array UInt8) (s : Store)
    (result : EStateM.Result Fault Store Unit) : Prop where
  overflow : (∃ t, result = .error .bankOverflow t) ↔ s.size < start + block.size
  laid : start + block.size ≤ s.size →
    ∃ t, result = .ok () t ∧ Laid start block s t ∧ t.readBlock start block.size = block

theorem lays_outcome (bank : Bank size) (start : Nat) (block : Array UInt8) :
    Lays start block (ofBank ⟨size, bank⟩)
      (outcome (ofBank ⟨size, bank⟩) ((bank.writeBlock start block).map (Sigma.mk size))) := by
  have extent : (ofBank ⟨size, bank⟩).size = size := rfl
  rcases Nat.lt_or_ge size (start + block.size) with beyond | inside
  · rw [bank.writeBlock_eq_overflow beyond]
    constructor
    · exact iff_of_true ⟨_, rfl⟩ (by omega)
    · intro fitting
      omega
  · rw [bank.writeBlock_eq_ok inside]
    have laid := laid_overlay bank inside
    have room : start + block.size ≤ (ofBank ⟨size, bank.overlay start block⟩).cells.size := by
      simpa [ofBank] using inside
    constructor
    · refine iff_of_false ?_ (by omega)
      rintro ⟨t, failed⟩
      cases failed
    · intro fitting
      exact ⟨_, rfl, laid, laid.readBlock room⟩

theorem overflow_zeroFrom (supply : Supply) (bank : Bank size) (narrow : fits size = true)
    (offset length : Nat) :
    zeroFrom supply bank offset length = .error .bankOverflow ↔ size < offset + length := by
  rcases Nat.lt_or_ge size (offset + length) with beyond | inside
  · exact iff_of_true (zeroFrom_eq_overflow supply bank beyond) beyond
  · refine iff_of_false (fun failed => ?_) (Nat.not_lt.2 inside)
    have few : fits length = true := fits_of_le narrow (by omega)
    cases answer : supply.block length with
    | none =>
      have covers : offset + (Array.replicate length (0 : UInt8)).size ≤ size := by
        simpa using inside
      rw [zeroFrom_of_granted bank offset few answer, bank.writeBlock_eq_ok covers] at failed
      cases failed
    | some fault =>
      rw [zeroFrom_of_refused bank few inside answer] at failed
      cases failed
      exact supply.proper length answer

theorem exists_error_outcome {s : Store} {result : Except Fault (Bank size)} {fault : Fault} :
    (∃ t, outcome s (result.map (Sigma.mk size)) = .error fault t) ↔ result = .error fault := by
  cases result with
  | ok bank =>
    refine iff_of_false ?_ (by simp)
    rintro ⟨t, failed⟩
    cases failed
  | error other =>
    constructor
    · rintro ⟨t, failed⟩
      cases failed
      rfl
    · intro same
      cases same
      exact ⟨s, rfl⟩

theorem lays_zeroBlock (bank : Bank size) (narrow : fits size = true) (offset : Nat) {length : Nat}
    (free : supply.block length = none) :
    Lays offset (Array.replicate length 0) (ofBank ⟨size, bank⟩)
      (perform supply (.zeroBlock offset length) (ofBank ⟨size, bank⟩)) := by
  have same : zeroFrom supply bank offset length =
      bank.writeBlock offset (Array.replicate length 0) := by
    rcases Nat.lt_or_ge size (offset + length) with beyond | inside
    · have past : size < offset + (Array.replicate length (0 : UInt8)).size := by simpa using beyond
      rw [zeroFrom_eq_overflow supply bank beyond, bank.writeBlock_eq_overflow past]
    · exact zeroFrom_of_granted bank offset (fits_of_le narrow (by omega)) free
  rw [perform_ofBank]
  change Lays _ _ _ (outcome _ ((zeroFrom supply bank offset length).map _))
  rw [same]
  exact lays_outcome bank offset _

/-- Whatever was called before, on a bank of any size and with any supply: the store is whole, a
call that fails leaves it as it is, and blocks at locations that are not negative are refused
exactly if they end beyond the last cell, and otherwise come over the cells that they address. With
the supply of a host, calls on the store are those on the bank. -/
theorem calls_leave_whole (supply : Supply) (n : Nat) (narrow : fits n = true)
    (calls : List Call) :
    let s := after supply calls (ofBank ⟨n, zeros n⟩)
    ((s.cells.size : Int) = s.size ∧ s.size = s.top + 1 ∧ ∀ cell ∈ s.cells, cell.toNat ≤ 255) ∧
    (∀ call fault t, perform supply call s = .error fault t → t = s) ∧
    (∀ (location : Nat) block,
      Lays location block s (perform supply (.writeBlock location block) s)) ∧
    (∀ offset length : Nat,
      ((∃ t, perform supply (.zeroBlock offset length) s = .error .bankOverflow t) ↔
        s.size < offset + length) ∧
      (supply.block length = none →
        Lays offset (Array.replicate length 0) s (perform supply (.zeroBlock offset length) s))) ∧
    ∀ (room : Room) (call : Call) (bank : Sized),
      perform (.limited room) call (ofBank bank) = outcome (ofBank bank) (call.run room bank) := by
  intro s
  have fresh : fits (⟨n, zeros n⟩ : Sized).1 = true := narrow
  obtain ⟨⟨size, bank⟩, few, last⟩ := after_ofBank supply calls fresh
  have reached : s = ofBank ⟨size, bank⟩ := last
  clear_value s
  subst reached
  refine ⟨⟨?_, ?_, ?_⟩, ?_, ?_, ?_, ?_⟩
  · exact congrArg Nat.cast bank.size_toArray
  · change (size : Int) = size - 1 + 1
    omega
  · exact fun cell _ => Nat.le_of_lt_succ cell.toNat_lt
  · intro call fault t failed
    rw [perform_ofBank] at failed
    cases answer : call.runWith supply ⟨size, bank⟩ with
    | ok next =>
      rw [answer] at failed
      cases failed
    | error other =>
      rw [answer] at failed
      cases failed
      rfl
  · intro location block
    rw [perform_ofBank]
    exact lays_outcome bank location block
  · intro offset length
    refine ⟨?_, lays_zeroBlock bank few offset⟩
    rw [perform_ofBank]
    change (∃ t, outcome _ ((zeroFrom supply bank offset length).map _) = _) ↔ (size : Int) < _
    rw [exists_error_outcome, overflow_zeroFrom supply bank few]
    omega
  · intro room call bank
    rw [perform_ofBank, Call.runWith_limited]

theorem calls_leave_whole_brim :
    let s := after .ample [.writeBlock 1 #[7], .resize (-1)] (ofBank ⟨2, zeros 2⟩)
    let bare := after .ample [] (ofBank ⟨0, zeros 0⟩)
    fits (2 : Nat) = true ∧ fits (0 : Nat) = true ∧ s.cells = #[0, 7] ∧ s.size = 2 ∧
      (∃ t, perform .ample (.writeBlock 0 #[5, 6]) s = .ok () t ∧ t.readBlock 0 2 = #[5, 6]) ∧
      (∃ t, perform .ample (.writeBlock 2 #[]) s = .ok () t ∧ t.readBlock 2 0 = #[]) ∧
      (∃ t, perform .ample (.zeroBlock 1 2) s = .error .bankOverflow t) ∧
      ∃ t, perform .ample (.writeBlock 0 #[]) bare = .ok () t ∧ t.readBlock 0 0 = #[] := by
  obtain ⟨-, -, blocks, zeroed, -⟩ :=
    calls_leave_whole .ample 2 (by decide) [.writeBlock 1 #[7], .resize (-1)]
  obtain ⟨-, -, bareBlocks, -, -⟩ := calls_leave_whole .ample 0 (by decide) []
  intro s bare
  have size : s.size = 2 := by decide
  obtain ⟨full, filled, -, reads⟩ := (blocks 0 #[5, 6]).laid (by decide)
  obtain ⟨same, kept, -, readsNone⟩ := (blocks 2 #[]).laid (by decide)
  obtain ⟨empty, stays, -, readsEmpty⟩ := (bareBlocks 0 #[]).laid (by decide)
  exact ⟨by decide, by decide, by decide, size, ⟨full, filled, reads⟩, ⟨same, kept, readsNone⟩,
    (zeroed 1 2).1.2 (by rw [size]; decide), ⟨empty, stays, readsEmpty⟩⟩

end Store

end Chip8
