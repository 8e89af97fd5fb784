import Chip8.Memory.Agreement
import Chip8.Proofs.Lockstep.History

namespace Chip8

inductive Interlude where
  | tick
  | refresh
  | report
  | poll
  | setKey (symbol : String) (down : Bool)
  | releaseAll
deriving DecidableEq, Repr

/-- The part of a machine that its instructions work on. -/
structure Core where
  processor : Processor
  memory : Memory
  stack : CallStack
  screen : Screen 64 32

/-- An instruction reads a setting, a key, a timer or a random byte that is not the same on two
machines. Shifting either of two equal registers reads the same. -/
def Instruction.TellsApart (m m' : Machine) : Instruction → Prop
  | .shiftRight x y | .shiftLeft x y =>
    m.register x ≠ m.register y ∧
      m'.settings.dialect.shiftsSecond ≠ m.settings.dialect.shiftsSecond
  | .storeRegisters _ | .loadRegisters _ =>
    m'.settings.dialect.movesIndex ≠ m.settings.dialect.movesIndex
  | .or _ _ | .and _ _ | .xor _ _ =>
    m'.settings.dialect.clearsFlag ≠ m.settings.dialect.clearsFlag
  | .unmapped _ => m'.settings.dialect.strict ≠ m.settings.dialect.strict
  | .skipIfKey _ | .skipUnlessKey _ | .awaitKey _ => m'.keypad.latch ≠ m.keypad.latch
  | .readDelay _ => m'.timers.delay ≠ m.timers.delay
  | .random _ _ => m'.noise.next ≠ m.noise.next
  | _ => False

namespace Machine

variable {τ τ' σ σ' : Type} {m m' : Machine}

def core (m : Machine) : Core where
  processor := m.processor
  memory := m.memory
  stack := m.stack
  screen := m.screen

def StepTellsApart (m m' : Machine) : Prop :=
  match m.processor.phase with
  | .awaitingKey => m'.keypad.latch ≠ m.keypad.latch
  | .running => (Instruction.decode (m.memory.word m.processor.pc)).TellsApart m m'

end Machine

namespace Interlude

variable {τ σ : Type}

def run (host : Host τ σ) : Interlude → Session σ Unit
  | tick => Machine.tick host
  | refresh => Machine.refresh host
  | report => Machine.report host
  | poll => discard (Machine.pollHost host)
  | setKey symbol down => (Operation.setKey symbol down).run host
  | releaseAll => Operation.releaseAll.run host

def all (host : Host τ σ) : List Interlude → Machine × σ → Machine × σ
  | [], s => s
  | interlude :: interludes, s => all host interludes (stateAfter (interlude.run host) s)

/-- A machine and its host after so many steps, each after interludes of its own. -/
def stepped (host : Host τ σ) (between : Nat → List Interlude) (s : Machine × σ) :
    Nat → Machine × σ
  | 0 => s
  | n + 1 =>
    stateAfter (Operation.step.run host) (all host (between n) (stepped host between s n))

def poised (host : Host τ σ) (between : Nat → List Interlude) (s : Machine × σ) (n : Nat) :
    Machine × σ :=
  all host (between n) (stepped host between s n)

variable {P : Machine → Prop}

theorem keeps_refresh (host : Host τ σ) :
    Keeps (fun s : Machine × σ => P s.1) (Machine.refresh host) :=
  Keeps.bind Keeps.get fun _ => Keeps.host _

theorem keeps_report (host : Host τ σ)
    (counted : ∀ m, P m → P { m with reportFrames := 0, reportSteps := 0 }) :
    Keeps (fun s : Machine × σ => P s.1) (Machine.report host) := by
  refine Keeps.bind Keeps.get fun _ => Keeps.bind ?_ fun _ => ?_
  · exact Keeps.host _
  · exact Keeps.change counted

theorem keeps_poll (host : Host τ σ) (worked : ∀ m, P m → ∀ keypad, P { m with keypad }) :
    Keeps (fun s : Machine × σ => P s.1) (discard (Machine.pollHost host)) := by
  refine Keeps.bind (Keeps.bind Keeps.get fun _ => Keeps.bind ?_ fun answer => ?_) fun _ => ?_
  · exact Keeps.host _
  · exact Keeps.bind (Keeps.change fun m h => worked m h answer.2) fun _ => Keeps.pure _
  · exact Keeps.pure ()

theorem core_pauseInvariant (c : Core) : Machine.PauseInvariant fun m => m.core = c where
  tick h := h
  count h := h
  keys h _ := h

theorem core_run (host : Host τ σ) (interlude : Interlude) (s : Machine × σ) :
    (stateAfter (interlude.run host) s).1.core = s.1.core := by
  have pauses := core_pauseInvariant s.1.core
  cases interlude with
  | tick => exact pauses.keeps_tick host s rfl
  | refresh => exact keeps_refresh (P := fun m => m.core = s.1.core) host s rfl
  | report => exact keeps_report (P := fun m => m.core = s.1.core) host (fun _ h => h) s rfl
  | poll => exact keeps_poll (P := fun m => m.core = s.1.core) host (fun _ h _ => h) s rfl
  | setKey symbol down => exact pauses.keeps_setKey host symbol down s rfl
  | releaseAll => exact pauses.keeps_releaseAll host s rfl

theorem core_all (host : Host τ σ) (interludes : List Interlude) (s : Machine × σ) :
    (all host interludes s).1.core = s.1.core := by
  induction interludes generalizing s with
  | nil => rfl
  | cons interlude interludes ih =>
    have first := core_run host interlude s
    have rest := ih (stateAfter (interlude.run host) s)
    exact rest.trans first

end Interlude

namespace Machine

variable {τ τ' σ σ' : Type} {m m' : Machine}

theorem core_shared : Shared fun m m' => m'.core = m.core where
  v h := congrArg (fun c => c.processor.v) h
  pc h := congrArg (fun c => c.processor.pc) h
  index h := congrArg (fun c => c.processor.i % 4096) h
  keyRegister h := congrArg (fun c => c.processor.keyRegister) h
  memory h := congrArg Core.memory h
  stack h := congrArg Core.stack h
  screen h := congrArg Core.screen h

theorem core_instructionLockstep :
    InstructionLockstep (Fault.Akin fun _ _ => True) fun m m' => m'.core = m.core where
  toShared := core_shared
  fault := .same
  report _ _ := .unmapped trivial
  registers h v := congrArg (fun c => { c with processor.v := v }) h
  jump h address := congrArg (fun c => { c with processor.pc := address }) h
  setIndex h i := congrArg (fun c => { c with processor.i := i }) h
  moveIndex h offset :=
    congrArg (fun c => { c with processor.i := (c.processor.i + offset) % 65536 }) h
  await h x :=
    congrArg (fun c => { c with processor.keyRegister := x, processor.phase := .awaitingKey }) h
  resume h := congrArg (fun c => { c with processor.phase := .running }) h
  picture h screen := congrArg (fun c => { c with screen }) h
  setDelay h _ := h
  setSound h _ := h
  noise h := h
  store h memory := congrArg (fun c => { c with memory }) h
  stacked h stack := congrArg (fun c => { c with stack }) h

theorem core_stepLockstep :
    StepLockstep (Fault.Akin fun _ _ => True) fun m m' => m'.core = m.core where
  toInstructionLockstep := core_instructionLockstep
  phase h := congrArg (fun c => c.processor.phase) h
  prepare h :=
    congrArg (fun c => { c with
      processor.fetchedAt := c.processor.pc
      processor.opcode := c.memory.word c.processor.pc
      processor.pc := (c.processor.pc + 2) % 4096 }) h

theorem consults_of_not_tellsApart (same : m'.core = m.core) {instruction : Instruction}
    (unread : ¬ instruction.TellsApart m m') : Consults m m' instruction := by
  have register (x : Nibble) : m'.register x = m.register x := core_shared.register same x
  cases instruction with
  | or | and | xor | storeRegisters | loadRegisters | random | readDelay | unmapped =>
    exact not_not.1 unread
  | shiftRight x y | shiftLeft x y =>
    change m'.register _ = m.register _
    rw [register]
    -- Which of two equal registers is shifted makes no difference.
    by_cases equal : m.register x = m.register y
    · split <;> split <;> simp only [equal]
    · have dialects := not_not.1 fun differ => unread ⟨equal, differ⟩
      rw [dialects]
  | skipIfKey x | skipUnlessKey x =>
    change m'.keypad.latch.isDown _ = m.keypad.latch.isDown _
    rw [not_not.1 unread, register]
  | awaitKey x =>
    change m'.keypad.latch.firstDown = m.keypad.latch.firstDown
    rw [not_not.1 unread]
  | _ => trivial

theorem stepConsults_of_not_tellsApart (same : m'.core = m.core)
    (unread : ¬ StepTellsApart m m') : StepConsults m m' := by
  unfold StepTellsApart at unread
  unfold StepConsults
  cases phase : m.processor.phase with
  | awaitingKey =>
    rw [phase] at unread
    exact congrArg Latch.firstDown (not_not.1 unread)
  | running =>
    rw [phase] at unread
    exact consults_of_not_tellsApart same unread

variable {s : Machine × σ} {s' : Machine × σ'}

open Interlude in
theorem alike_poised (host : Host τ σ) (host' : Host τ' σ')
    (between between' : Nat → List Interlude) {k : Nat}
    (same : (stepped host' between' s' k).1.core = (stepped host between s k).1.core)
    (unread : ¬ StepTellsApart (poised host between s k).1 (poised host' between' s' k).1) :
    Alike (Fault.Akin fun _ _ => True) (fun m m' => m'.core = m.core)
      (step (poised host between s k).1) (step (poised host' between' s' k).1) := by
  have left : (poised host between s k).1.core = (stepped host between s k).1.core :=
    core_all host (between k) _
  have right : (poised host' between' s' k).1.core = (stepped host' between' s' k).1.core :=
    core_all host' (between' k) _
  have still : (poised host' between' s' k).1.core = (poised host between s k).1.core := by
    rw [left, right, same]
  exact core_stepLockstep.step still (stepConsults_of_not_tellsApart still unread)

open Interlude in
/-- Two machines with the same core, on any two hosts, take their steps alike as long as no step
reads a setting, a key, a timer or a random byte on which they differ, whatever is done on either
side between the steps: they have the same core after each of them, and a step that fails on one
side fails on the other with the same fault, but for the report of an unmapped word. -/
theorem steps_agree_until_told_apart (host : Host τ σ) (host' : Host τ' σ')
    (between between' : Nat → List Interlude) (s : Machine × σ) (s' : Machine × σ')
    (same : s'.1.core = s.1.core) (n : Nat)
    (unread : ∀ k < n,
      ¬ StepTellsApart (poised host between s k).1 (poised host' between' s' k).1) :
    (∀ k ≤ n, (stepped host' between' s' k).1.core = (stepped host between s k).1.core) ∧
    ∀ k < n, Option.Rel (Fault.Akin fun _ _ => True)
      (faultOf step (poised host between s k).1) (faultOf step (poised host' between' s' k).1) := by
  have cores (k : Nat) (inside : k ≤ n) :
      (stepped host' between' s' k).1.core = (stepped host between s k).1.core := by
    induction k with
    | zero => exact same
    | succ k ih =>
      have alike := alike_poised host host' between between' (ih (by omega)) (unread k (by omega))
      have after := alike.stateAfter
      rw [← Operation.machine_step host, ← Operation.machine_step host'] at after
      exact after
  refine ⟨cores, fun k inside => ?_⟩
  exact (alike_poised host host' between between' (cores k (by omega)) (unread k inside)).faultOf

def shifter (settings : Settings) (keymap : Keymap) (delay : UInt8) : Machine :=
  { new settings keymap (Noise.cycle #[]) with
    memory := Memory.image #[0x80, 0x16]
    timers := ⟨delay, 0⟩ }

theorem word_shifter (settings : Settings) (keymap : Keymap) (delay : UInt8) :
    (shifter settings keymap delay).memory.word (shifter settings keymap delay).processor.pc =
      ⟨0x8, 0x0, 0x1, 0x6⟩ :=
  Memory.word_image #[0x80, 0x16] (k := 0) (by decide)

theorem not_tellsApart_shifter {settings : Settings} {keymap : Keymap} {delay : UInt8}
    (same : m.core = (shifter settings keymap delay).core) : ¬ StepTellsApart m m' := by
  have running : m.processor.phase = .running := congrArg (fun c => c.processor.phase) same
  have word : m.memory.word m.processor.pc = ⟨0x8, 0x0, 0x1, 0x6⟩ :=
    (congrArg (fun c => c.memory.word c.processor.pc) same).trans
      (word_shifter settings keymap delay)
  have equal : m.register 0x0 = m.register 0x1 := by
    have v : m.processor.v = Bank.zeros 16 := congrArg (fun c => c.processor.v) same
    unfold register
    rw [v]
    decide
  unfold StepTellsApart
  rw [running]
  dsimp only
  rw [word]
  rintro ⟨differ, -⟩
  exact differ equal

theorem steps_agree_until_told_apart_shifter :
    let left := shifter { dialect := { shiftsSecond := true }, live := true } [] 7
    let right := shifter {} [("k", 5)] 0
    let between : Nat → List Interlude := fun _ => [.tick, .refresh]
    let between' : Nat → List Interlude := fun _ => [.setKey "k" true, .report]
    let s := Interlude.stepped Host.silent between (left, ()) 1
    let s' := Interlude.stepped Host.silent between' (right, ()) 1
    right.core = left.core ∧
      right.settings.dialect.shiftsSecond ≠ left.settings.dialect.shiftsSecond ∧
      ¬ StepTellsApart (Interlude.poised Host.silent between (left, ()) 0).1
        (Interlude.poised Host.silent between' (right, ()) 0).1 ∧
      s'.1.core = s.1.core := by
  intro left right between between' s s'
  have unread : ∀ k < 1,
      ¬ StepTellsApart (Interlude.poised Host.silent between (left, ()) k).1
        (Interlude.poised Host.silent between' (right, ()) k).1 := by
    intro k inside
    obtain rfl : k = 0 := by omega
    have same : (Interlude.poised Host.silent between (left, ()) 0).1.core = left.core :=
      Interlude.core_all Host.silent (between 0) (left, ())
    exact not_tellsApart_shifter same
  have agree := steps_agree_until_told_apart Host.silent Host.silent between between' (left, ())
    (right, ()) rfl 1 unread
  exact ⟨rfl, by decide, unread 0 Nat.one_pos, agree.1 1 (Nat.le_refl 1)⟩

end Machine

end Chip8
