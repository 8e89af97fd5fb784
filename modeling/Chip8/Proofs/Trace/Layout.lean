import Chip8.Proofs.Ranges
import Chip8.Proofs.Text.Hex
import Mathlib.Data.List.Basic

namespace Chip8

namespace Text

def numberAt (line : List Char) (start width : Nat) : Nat :=
  hexValue ((line.drop start).take width)

variable {front : List Char} {skipped : Nat}

theorem numberAt_skip (passed : front.length = skipped) (rest : List Char) (start width : Nat) :
    numberAt (front ++ rest) (skipped + start) width = numberAt rest start width := by
  rw [numberAt, ← List.drop_drop, List.drop_left' passed]
  rfl

theorem length_byteField (byte : UInt8) : (hexField 2 byte.toNat).length = 2 :=
  length_hexField Nat.two_pos byte.toNat_lt

theorem length_address {address : Int} (range : 0 ≤ address ∧ address < 4096) :
    (hexField 3 address).length = 3 := by
  obtain ⟨n, rfl⟩ := Int.eq_ofNat_of_zero_le range.1
  exact length_hexField (Nat.succ_pos 2) (Int.ofNat_lt.1 range.2)

theorem hexValue_of_nonneg (width : Nat) {value : Int} (nonneg : 0 ≤ value) :
    (hexValue (hexField width value) : Int) = value := by
  obtain ⟨n, rfl⟩ := Int.eq_ofNat_of_zero_le nonneg
  rw [hexValue_hexField]

theorem numberAt_bytes (bytes : List UInt8) (rest : List Char) {k : Nat}
    (inside : k < bytes.length) :
    numberAt (bytes.flatMap (fun byte => hexField 2 byte.toNat) ++ rest) (2 * k) 2 =
      bytes[k].toNat := by
  induction bytes generalizing k with
  | nil => cases inside
  | cons byte bytes ih =>
    rw [List.flatMap_cons, List.append_assoc]
    cases k with
    | zero =>
      rw [numberAt, Nat.mul_zero, List.drop_zero, List.take_left' (length_byteField byte),
        hexValue_hexField]
      rfl
    | succ k =>
      rw [Nat.mul_succ, Nat.add_comm, numberAt_skip (length_byteField byte)]
      exact ih (Nat.lt_of_succ_lt_succ inside)

end Text

open Text

structure Vitals where
  v : Bank 16
  i : Int
  delay : UInt8
  sound : UInt8
  address : Int
  word : Opcode
deriving DecidableEq

/-- Reads a line. Two places are taken by each register, from VF down to V0. -/
def Vitals.ofLine (line : String) : Vitals :=
  let number := numberAt line.toList
  { v := Vector.ofFn fun k => UInt8.ofNat (number (5 + 2 * (15 - k)) 2)
    i := number 43 4
    delay := UInt8.ofNat (number 54 2)
    sound := UInt8.ofNat (number 63 2)
    address := number 72 3
    word := Opcode.ofNat (number 82 4) }

namespace Machine

variable {m m' : Machine}

def told (m : Machine) : Vitals where
  v := m.processor.v
  i := m.processor.i
  delay := m.timers.delay
  sound := m.timers.sound
  address := m.processor.fetchedAt
  word := m.processor.opcode

def lineTail (m : Machine) (mnemonic : String) : List Char :=
  " I: 0x".toList ++ (hexField 4 m.processor.i ++
    (" DT: 0x".toList ++ (hexField 2 m.timers.delay.toNat ++
      (" ST: 0x".toList ++ (hexField 2 m.timers.sound.toNat ++
        (" PC: 0x".toList ++ (hexField 3 m.processor.fetchedAt ++
          (" OP: 0x".toList ++ (hexField 4 m.processor.opcode.toNat ++
            (" IN: ".toList ++ mnemonic.toList))))))))))

theorem toList_registersText (m : Machine) :
    m.registersText.toList =
      m.processor.v.toList.reverse.flatMap fun byte => hexField 2 byte.toNat := by
  simp only [registersText, String.toList_join, List.flatMap_map, hexByte, toList_hex]

theorem length_registersText (m : Machine) : m.registersText.toList.length = 32 := by
  rw [toList_registersText, List.length_flatMap]
  simp [length_byteField]

theorem toList_traceLine (m : Machine) (mnemonic : String) :
    (m.traceLine mnemonic).toList =
      "V: 0x".toList ++ (m.registersText.toList ++ m.lineTail mnemonic) := by
  unfold traceLine lineTail
  simp only [hexByte, Opcode.text, String.toList_append, toList_hex, List.append_assoc]

theorem length_label : "V: 0x".toList.length = 5 := rfl

theorem numberAt_registers (m : Machine) (mnemonic : String) {k : Nat} (inside : k < 16) :
    numberAt (m.traceLine mnemonic).toList (5 + 2 * (15 - k)) 2 = m.processor.v[k].toNat := by
  have length : m.processor.v.toList.reverse.length = 16 := by simp
  have place : 15 - (15 - k) = k := by omega
  rw [toList_traceLine, numberAt_skip length_label, toList_registersText,
    numberAt_bytes _ _ (by omega : 15 - k < _), List.getElem_reverse]
  simp only [Vector.length_toList, Nat.add_one_sub_one, Vector.getElem_toList, place]

theorem numberAt_tail (m : Machine) (mnemonic : String) (start width : Nat) :
    numberAt (m.traceLine mnemonic).toList (5 + (32 + start)) width =
      numberAt (m.lineTail mnemonic) start width := by
  rw [toList_traceLine, numberAt_skip length_label, numberAt_skip m.length_registersText]

theorem length_index (h : m.InRange) : (hexField 4 m.processor.i).length = 4 := by
  obtain ⟨i, index⟩ := Int.eq_ofNat_of_zero_le h.index.1
  have range : i < Nat.pow 16 4 := by
    have := h.index.2
    change i < 65536
    omega
  rw [index]
  exact length_hexField (Nat.succ_pos 3) range

theorem numbers_tail (h : m.InRange) (mnemonic : String) :
    let number := numberAt (m.lineTail mnemonic)
    (number 6 4 : Int) = m.processor.i ∧ number 17 2 = m.timers.delay.toNat ∧
      number 26 2 = m.timers.sound.toNat ∧ (number 35 3 : Int) = m.processor.fetchedAt ∧
      number 45 4 = m.processor.opcode.toNat := by
  have index := hexValue_of_nonneg 4 h.index.1
  have delay := hexValue_hexField 2 m.timers.delay.toNat
  have sound := hexValue_hexField 2 m.timers.sound.toNat
  have address := hexValue_of_nonneg 3 h.fetchedAt.1
  have word := hexValue_hexField 4 m.processor.opcode.toNat
  obtain ⟨_, _, _, _, four⟩ := List.length_eq_four.1 (length_index h)
  obtain ⟨_, _, two⟩ := List.length_eq_two.1 (length_byteField m.timers.delay)
  obtain ⟨_, _, two'⟩ := List.length_eq_two.1 (length_byteField m.timers.sound)
  obtain ⟨_, _, _, three⟩ := List.length_eq_three.1 (length_address h.fetchedAt)
  obtain ⟨_, _, _, _, four'⟩ := List.length_eq_four.1
    (length_hexField (Nat.succ_pos 3) m.processor.opcode.toNat_lt)
  unfold lineTail
  rw [four] at index ⊢
  rw [two] at delay ⊢
  rw [two'] at sound ⊢
  rw [three] at address ⊢
  rw [four'] at word ⊢
  exact ⟨index, delay, sound, address, word⟩

theorem ofLine_traceLine (h : m.InRange) (mnemonic : String) :
    Vitals.ofLine (m.traceLine mnemonic) = m.told := by
  obtain ⟨index, delay, sound, address, word⟩ := m.numbers_tail h mnemonic
  unfold Vitals.ofLine told
  simp only [Vitals.mk.injEq]
  refine ⟨?_, ?_, ?_, ?_, ?_, ?_⟩
  · refine Vector.ext fun k inside => ?_
    rw [Vector.getElem_ofFn, m.numberAt_registers mnemonic inside, UInt8.ofNat_toNat]
  · rw [m.numberAt_tail mnemonic 6 4, index]
  · rw [m.numberAt_tail mnemonic 17 2, delay, UInt8.ofNat_toNat]
  · rw [m.numberAt_tail mnemonic 26 2, sound, UInt8.ofNat_toNat]
  · rw [m.numberAt_tail mnemonic 35 3, address]
  · rw [m.numberAt_tail mnemonic 45 4, word, Opcode.ofNat_toNat]

theorem ofLine_dump (h : m.InRange) (mnemonic : String) :
    Vitals.ofLine (m.dump mnemonic) = m.told := by
  have line : m.dump mnemonic = m.traceLine
      (mnemonic ++ "\nStack:" ++ m.stackText ++ "\nState: " ++ phaseText m.processor.phase) := by
    unfold dump traceLine
    simp only [String.append_assoc]
  rw [line, ofLine_traceLine h]

theorem length_traceLine (h : m.InRange) (mnemonic : String) :
    (m.traceLine mnemonic).toList.length = 91 + mnemonic.toList.length := by
  have labels : " I: 0x".toList.length = 6 ∧ " DT: 0x".toList.length = 7 ∧
      " ST: 0x".toList.length = 7 ∧ " PC: 0x".toList.length = 7 ∧ " OP: 0x".toList.length = 7 ∧
      " IN: ".toList.length = 5 := ⟨rfl, rfl, rfl, rfl, rfl, rfl⟩
  rw [toList_traceLine]
  unfold lineTail
  simp only [List.length_append, length_label, length_registersText, labels, length_index h,
    length_byteField, length_address h.fetchedAt,
    length_hexField (Nat.succ_pos 3) m.processor.opcode.toNat_lt]
  omega

theorem toList_dump (m : Machine) (mnemonic : String) :
    (m.dump mnemonic).toList =
      (m.traceLine mnemonic).toList ++ ("\nStack:".toList ++ (m.stackText.toList ++
        ("\nState: ".toList ++ (phaseText m.processor.phase).toList))) := by
  unfold dump
  simp only [String.toList_append, List.append_assoc]

end Machine

/-- What a dump tells: its line, the stacked addresses, the oldest first, and the phase. -/
structure Account extends Vitals where
  stack : List Int
  phase : Phase
deriving DecidableEq

def Text.addresses : List Char → List Int
  | ' ' :: '0' :: 'x' :: a :: b :: c :: rest => hexValue [a, b, c] :: addresses rest
  | _ => []

/-- Reads a dump. The word at the end of its line tells how long the mnemonic behind it is. -/
def Account.ofDump (text : String) : Account :=
  let line := Vitals.ofLine text
  let mnemonic := (Instruction.decode line.word).mnemonic.toList
  { toVitals := line
    stack := addresses (text.toList.drop (91 + mnemonic.length + 7))
    phase := if "awaiting key".toList.isSuffixOf text.toList then .awaitingKey else .running }

theorem addresses_flatMap {items : List Int} (range : ∀ item ∈ items, 0 ≤ item ∧ item < 4096)
    {rest : List Char} (stops : addresses rest = []) :
    addresses (items.flatMap (fun item => " 0x".toList ++ hexField 3 item) ++ rest) = items := by
  induction items with
  | nil => exact stops
  | cons item items ih =>
    have first := range item (List.mem_cons_self ..)
    have value := hexValue_of_nonneg 3 first.1
    obtain ⟨a, b, c, digits⟩ := List.length_eq_three.1 (length_address first)
    have others := ih fun other member => range other (List.mem_cons_of_mem _ member)
    rw [digits] at value
    rw [List.flatMap_cons, digits, List.append_assoc]
    exact congrArg₂ List.cons value others

namespace Machine

variable {m m' : Machine}

def account (m : Machine) : Account where
  toVitals := m.told
  stack := m.stack.toList
  phase := m.processor.phase

theorem addresses_stackText (h : m.InRange) (rest : List Char) :
    addresses (m.stackText.toList ++ ("\nState: ".toList ++ rest)) = m.stack.toList := by
  unfold stackText
  cases stacked : m.stack.toList with
  | nil => rfl
  | cons oldest others =>
    have range : ∀ item ∈ oldest :: others, 0 ≤ item ∧ item < 4096 := by
      intro item member
      rw [← stacked] at member
      exact h.stack.addresses item (List.mem_reverse.1 member)
    have stops : addresses ("\nState: ".toList ++ rest) = [] := rfl
    have blocks := addresses_flatMap range stops
    simpa only [String.toList_join, List.flatMap_map, String.toList_append, toList_hex] using blocks

theorem isSuffixOf_phaseText (text : List Char) (phase : Phase) :
    "awaiting key".toList.isSuffixOf (text ++ (phaseText phase).toList) =
      (phase = .awaitingKey : Bool) := by
  unfold List.isSuffixOf
  rw [List.reverse_append]
  cases phase with
  | running => rfl
  | awaitingKey => rfl

theorem ofDump_dump (h : m.InRange) : Account.ofDump (m.dump m.currentMnemonic) = m.account := by
  have line := ofLine_dump h m.currentMnemonic
  have above := length_traceLine h m.currentMnemonic
  have stack : (m.dump m.currentMnemonic).toList.drop
      (91 + m.currentMnemonic.toList.length + 7) =
      m.stackText.toList ++ ("\nState: ".toList ++ (phaseText m.processor.phase).toList) := by
    rw [toList_dump, ← List.drop_drop, List.drop_left' above]
    rfl
  have phase : "awaiting key".toList.isSuffixOf (m.dump m.currentMnemonic).toList =
      (m.processor.phase = .awaitingKey : Bool) := by
    rw [toList_dump]
    simp only [← List.append_assoc]
    exact isSuffixOf_phaseText _ _
  unfold Account.ofDump account
  rw [line]
  change ({ toVitals := m.told, stack := addresses ((m.dump m.currentMnemonic).toList.drop
    (91 + m.currentMnemonic.toList.length + 7)), phase := _ } : Account) = _
  rw [stack, addresses_stackText h, phase]
  cases m.processor.phase <;> rfl

theorem traceLine_of_told (same : m.told = m'.told) :
    m.traceLine m.currentMnemonic = m'.traceLine m'.currentMnemonic := by
  have v : m.processor.v = m'.processor.v := congrArg Vitals.v same
  have index : m.processor.i = m'.processor.i := congrArg Vitals.i same
  have delay : m.timers.delay = m'.timers.delay := congrArg Vitals.delay same
  have sound : m.timers.sound = m'.timers.sound := congrArg Vitals.sound same
  have address : m.processor.fetchedAt = m'.processor.fetchedAt := congrArg Vitals.address same
  have word : m.processor.opcode = m'.processor.opcode := congrArg Vitals.word same
  unfold traceLine registersText currentMnemonic
  rw [v, index, delay, sound, address, word]

theorem dump_of_account (same : m.account = m'.account) :
    m.dump m.currentMnemonic = m'.dump m'.currentMnemonic := by
  have line := traceLine_of_told (congrArg Account.toVitals same)
  have stack : m.stack.toList = m'.stack.toList := congrArg Account.stack same
  have phase : m.processor.phase = m'.processor.phase := congrArg Account.phase same
  unfold dump stackText
  rw [line, stack, phase]

theorem traceLine_eq_iff (h : m.InRange) (h' : m'.InRange) :
    m.traceLine m.currentMnemonic = m'.traceLine m'.currentMnemonic ↔ m.told = m'.told := by
  refine ⟨fun same => ?_, traceLine_of_told⟩
  rw [← ofLine_traceLine h, same, ofLine_traceLine h']

theorem dump_eq_iff (h : m.InRange) (h' : m'.InRange) :
    m.dump m.currentMnemonic = m'.dump m'.currentMnemonic ↔ m.account = m'.account := by
  refine ⟨fun same => ?_, dump_of_account⟩
  rw [← ofDump_dump h, same, ofDump_dump h']

end Machine

end Chip8
