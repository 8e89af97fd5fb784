import Chip8.Proofs.Lockstep.History
import Chip8.Proofs.Run.Bench

namespace Chip8

namespace Machine

variable {τ σ : Type}

def emulated (m : Machine) : Machine :=
  { m with reportFrames := 0, reportSteps := 0 }

def round (host : Host τ σ) : Session σ Unit := do
  discard (pollHost host)
  frame host

def rounds (host : Host τ σ) : Nat → Session σ Unit
  | 0 => pure ()
  | n + 1 => do
    rounds host n
    round host

/-- Sessions that differ at most in what belongs to the clock and to the reports. -/
abbrev Matches : Machine × Diary → Machine × Diary → Prop :=
  Both (fun m m' => m'.emulated = m.emulated)
    fun diary diary' => diary'.filter Event.ofFrames = diary.filter Event.ofFrames

variable {m m' : Machine}

theorem emulated_shared : Shared fun m m' => m'.emulated = m.emulated where
  v h := congrArg (fun e => e.processor.v) h
  pc h := congrArg (fun e => e.processor.pc) h
  index h := congrArg (fun e => e.processor.i % 4096) h
  keyRegister h := congrArg (fun e => e.processor.keyRegister) h
  memory h := congrArg (fun e => e.memory) h
  stack h := congrArg (fun e => e.stack) h
  screen h := congrArg (fun e => e.screen) h

theorem emulated_instructionLockstep :
    InstructionLockstep (· = ·) fun m m' => m'.emulated = m.emulated where
  toShared := emulated_shared
  fault _ := rfl
  report h reason := congrArg (fun e => Fault.unmappedOpcode (e.crashReport reason)) h.symm
  registers h v := congrArg (fun e => { e with processor.v := v }) h
  jump h address := congrArg (fun e => e.jumpTo address) h
  setIndex h i := congrArg (fun e => e.setIndex i) h
  moveIndex h offset := congrArg (fun e => e.setIndex ((e.processor.i + offset) % 65536)) h
  await h x :=
    congrArg (fun e => { e with processor.keyRegister := x, processor.phase := .awaitingKey }) h
  resume h := congrArg (fun e => { e with processor.phase := .running }) h
  picture h screen := congrArg (fun e => { e with screen }) h
  setDelay h value := congrArg (fun e => { e with timers := e.timers.setDelay value }) h
  setSound h value := congrArg (fun e => { e with timers := e.timers.setSound value }) h
  noise h := congrArg (fun e => { e with noise := e.noise.rest }) h
  store h memory := congrArg (fun e => { e with memory }) h
  stacked h stack := congrArg (fun e => { e with stack }) h

theorem emulated_historyLockstep :
    HistoryLockstep (· = ·) fun m m' => m'.emulated = m.emulated where
  toInstructionLockstep := emulated_instructionLockstep
  phase h := congrArg (fun e => e.processor.phase) h
  prepare h := congrArg prepared h
  dialect h := congrArg (fun e => e.settings.dialect) h
  stepsPerFrame h := congrArg (fun e => e.settings.stepsPerFrame) h
  keypad h := congrArg (fun e => e.keypad) h
  timers h := congrArg (fun e => e.timers) h
  random h := congrArg (fun e => e.noise.next) h
  load h program := congrArg (fun e => { e with program }.reset) h
  reset h := congrArg reset h
  time h timers := congrArg (fun e => { e with timers }) h
  count h := congrArg (fun e => { e with frames := e.frames + 1 }) h
  keys h keypad := congrArg (fun e => { e with keypad }) h

theorem hosts_alike (bench : Bench τ) :
    Host.Alike (· = ·) (fun diary diary' : Diary =>
      diary'.filter Event.ofFrames = diary.filter Event.ofFrames) bench.host bench.host where
  present picture diary diary' same := by
    refine .ok () ?_
    rw [List.filter_append, List.filter_append, same]
  tone diary diary' same := by
    refine .ok () ?_
    rw [List.filter_append, List.filter_append, same]

theorem matches_frame (bench : Bench τ) :
    Lockstep (· = ·) Matches (frame bench.host) (frame bench.host) :=
  emulated_historyLockstep.frame (hosts_alike bench)

variable {bench : Bench τ} {n : Nat} {s t u : Machine × Diary} {event : Event}

theorem round_eq (bench : Bench τ) (s : Machine × Diary) :
    round bench.host s = frame bench.host (glanced bench s) := rfl

theorem rounds_of_ok (host : Host τ σ) {s t : Machine × σ} (done : rounds host n s = .ok () t) :
    rounds host (n + 1) s = round host t :=
  bind_of_ok done

theorem rounds_timeless {other : Bench τ} (keys : other.keys = bench.keys)
    (patience : other.patience = bench.patience) (n : Nat) :
    rounds other.host n = rounds bench.host n := by
  have same : round other.host = round bench.host := by
    obtain ⟨reading, sleep, _, _⟩ := other
    obtain rfl := keys
    obtain rfl := patience
    rfl
  induction n with
  | zero => rfl
  | succ n ih =>
    unfold rounds
    rw [ih, same]

theorem exists_rounds {host : Host τ σ} {s t : Machine × σ} {k : Nat} (few : k ≤ n)
    (done : rounds host n s = .ok () t) : ∃ u, rounds host k s = .ok () u := by
  induction few generalizing t with
  | refl => exact ⟨t, done⟩
  | step few ih =>
    obtain ⟨_, u, earlier, -⟩ := ok_of_bind done
    exact ih earlier

def pictures (bench : Bench τ) (m : Machine) (n : Nat) : List (Array UInt8) :=
  (List.range n).map fun k => (stateAfter (rounds bench.host (k + 1)) (m, [])).1.screen.frame

structure Tally (bench : Bench τ) (m : Machine) (n : Nat) (t : Machine × Diary) : Prop where
  settings : t.1.settings = m.settings
  looks : t.2.count .looked = n
  frames : t.1.frames = m.frames + n
  pictures : t.2.filterMap Event.picture? = pictures bench m n

theorem tally_rounds (done : rounds bench.host n (m, []) = .ok () t) : Tally bench m n t := by
  induction n generalizing t with
  | zero =>
    cases done
    exact ⟨rfl, rfl, rfl, rfl⟩
  | succ n ih =>
    obtain ⟨_, s, earlier, last⟩ := ok_of_bind done
    have tally := ih earlier
    have left := stateAfter_of_ok done
    rw [round_eq] at last
    obtain ⟨next, stepped, rfl⟩ := steps_of_frame last
    have frames : next.frames = s.1.frames := congrArg (fun l => l.2.1) (ledger_of_steps stepped)
    have settings : next.settings = s.1.settings := congrArg Prod.fst (ledger_of_steps stepped)
    refine ⟨settings.trans tally.settings, ?_, ?_, ?_⟩
    · simp [framed, glanced, tally.looks, next.looks_tones]
    · change next.frames + 1 = m.frames + (n + 1)
      rw [frames, tally.frames, Nat.add_assoc]
    · unfold pictures
      rw [List.range_succ, List.map_append, List.map_singleton, left]
      simp only [framed, glanced, List.filterMap_append, tally.pictures, next.picture_tones]
      simp [Event.picture?, pictures, countFrame]

theorem Matches.looks (same : Matches t s) : s.2.count .looked = t.2.count .looked := by
  have counts := congrArg (List.count .looked) same.hosts
  rwa [List.count_filter rfl, List.count_filter rfl] at counts

theorem Matches.pictures (same : Matches t s) :
    s.2.filterMap Event.picture? = t.2.filterMap Event.picture? := by
  have framed (diary : Diary) :
      (diary.filter Event.ofFrames).filterMap Event.picture? = diary.filterMap Event.picture? := by
    rw [List.filterMap_filter]
    refine List.filterMap_congr fun event _ => ?_
    cases event <;> rfl
  rw [← framed s.2, same.hosts, framed]

theorem Matches.glanced (same : Matches t s) :
    Matches (glanced bench t) (glanced bench s) := by
  have keypad : s.1.keypad = t.1.keypad := congrArg (fun e => e.keypad) same.machines
  unfold Machine.glanced
  rw [same.looks, keypad]
  refine ⟨emulated_historyLockstep.keys same.machines _, ?_⟩
  rw [List.filter_append, List.filter_append, same.hosts]

theorem Matches.note (same : Matches t s) (kept : u.1.emulated = s.1.emulated)
    (noted : u.2 = s.2 ++ [event]) (other : event.ofFrames = false) : Matches t u where
  machines := kept.trans same.machines
  hosts := by
    rw [noted, List.filter_append, same.hosts]
    simp [other]

end Machine

end Chip8
