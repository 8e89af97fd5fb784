import Chip8.Proofs.History
import Chip8.World
import Mathlib.Data.List.Induction
import Mathlib.Data.List.Infix

namespace Chip8

structure Alarm where
  timers : Timers
  speaker : Speaker
deriving DecidableEq

namespace Alarm

def new (kind : Speaker.Kind) : Alarm where
  timers := Timers.stopped
  speaker := Speaker.new kind

def tick (alarm : Alarm) : Alarm where
  timers := alarm.timers.tick
  speaker := if alarm.timers.toneDue then alarm.speaker.play.device else alarm.speaker

inductive Call where
  | setDelay (value : Int)
  | setSound (value : Int)
  | tick
  | reset
deriving DecidableEq

def apply (alarm : Alarm) : Call → Alarm
  | .setDelay value => { alarm with timers := alarm.timers.setDelay value }
  | .setSound value => { alarm with timers := alarm.timers.setSound value }
  | .tick => alarm.tick
  | .reset => { alarm with timers := Timers.stopped }

def after (calls : List Call) (alarm : Alarm) : Alarm :=
  calls.foldl apply alarm

theorem tick_of_world (m : Machine) (world : World) :
    let s := stateAfter (Machine.tick World.host) (m, world)
    (⟨s.1.timers, s.2.speaker⟩ : Alarm) = tick ⟨m.timers, world.speaker⟩ := by
  have counted : stateAfter (Machine.tick World.host) (m, world) =
      stateAfter (if m.timers.toneDue then Session.host World.host.tone else pure ())
        ({ m with timers := m.timers.tick }, world) := rfl
  rw [counted]
  unfold tick
  cases m.timers.toneDue <;> rfl

def Call.delay? : Call → Option Int
  | setDelay value => some (value % 256)
  | reset => some 0
  | _ => none

def Call.sound? : Call → Option Int
  | setSound value => some (value % 256)
  | reset => some 0
  | _ => none

/-- The level set last, or the one a timer starts at. -/
def lastLevel (level? : Call → Option Int) (calls : List Call) : Int :=
  (calls.reverse.findSome? level?).getD 0

def ticksSince (level? : Call → Option Int) (calls : List Call) : Nat :=
  (calls.reverse.takeWhile fun call => (level? call).isNone).count .tick

/-- The ticks before the sound timer is next set or reset. -/
def ticksLeft (calls : List Call) : Nat :=
  (calls.takeWhile fun call => call.sound?.isNone).count .tick

/-- The first of these calls is a setting of the sound timer that runs out. -/
def runsOut : List Call → Bool
  | .setSound value :: later => 0 < value % 256 ∧ value % 256 ≤ ticksLeft later
  | _ => false

structure CountsDown (timer : Alarm → UInt8) (level? : Call → Option Int) : Prop where
  start : ∀ kind, timer (new kind) = 0
  set : ∀ (alarm : Alarm) call level, level? call = some level →
    ((timer (alarm.apply call)).toNat : Int) = level
  tick : ∀ alarm : Alarm, (timer alarm.tick).toNat = (timer alarm).toNat - 1
  keep : ∀ (alarm : Alarm) call, level? call = none → call ≠ .tick →
    timer (alarm.apply call) = timer alarm

theorem delay_countsDown : CountsDown (·.timers.delay) Call.delay? where
  start _ := rfl
  set alarm call level set := by
    cases call with
    | setDelay value =>
      cases set
      exact toNat_lowByte value
    | reset =>
      cases set
      rfl
    | _ => cases set
  tick alarm := Timers.toNat_countDown alarm.timers.delay
  keep alarm call unset other := by
    cases call with
    | setSound => rfl
    | tick => exact absurd rfl other
    | _ => cases unset

theorem sound_countsDown : CountsDown (·.timers.sound) Call.sound? where
  start _ := rfl
  set alarm call level set := by
    cases call with
    | setSound value =>
      cases set
      exact toNat_lowByte value
    | reset =>
      cases set
      rfl
    | _ => cases set
  tick alarm := Timers.toNat_countDown alarm.timers.sound
  keep alarm call unset other := by
    cases call with
    | setDelay => rfl
    | tick => exact absurd rfl other
    | _ => cases unset

variable {timer : Alarm → UInt8} {level? : Call → Option Int}

theorem after_concat (calls : List Call) (call : Call) (alarm : Alarm) :
    after (calls ++ [call]) alarm = (after calls alarm).apply call :=
  List.foldl_concat ..

theorem lastLevel_concat (calls : List Call) (call : Call) :
    lastLevel level? (calls ++ [call]) = (level? call).getD (lastLevel level? calls) := by
  unfold lastLevel
  rw [List.reverse_append]
  cases level : level? call <;> simp [level]

theorem ticksSince_concat (calls : List Call) (call : Call) :
    ticksSince level? (calls ++ [call]) =
      if (level? call).isSome then 0
      else ticksSince level? calls + if call = .tick then 1 else 0 := by
  unfold ticksSince
  rw [List.reverse_append]
  cases level : level? call <;> simp [level, List.count_cons]

theorem CountsDown.level (counts : CountsDown timer level?) (kind : Speaker.Kind)
    (calls : List Call) :
    ((timer (after calls (new kind))).toNat : Int) =
      max 0 (lastLevel level? calls - ticksSince level? calls) := by
  induction calls using List.reverseRecOn with
  | nil =>
    change ((timer (new kind)).toNat : Int) = max 0 (0 - 0)
    rw [counts.start]
    rfl
  | append_singleton calls call ih =>
    rw [after_concat, lastLevel_concat, ticksSince_concat]
    cases set : level? call with
    | some level =>
      have arrived := counts.set (after calls (new kind)) call level set
      change _ = max 0 (level - 0)
      omega
    | none =>
      by_cases ticks : call = .tick
      · have lower := counts.tick (after calls (new kind))
        rw [ticks]
        change ((timer (after calls (new kind)).tick).toNat : Int) =
          max 0 (lastLevel level? calls - (ticksSince level? calls + 1 : Nat))
        omega
      · rw [counts.keep _ call set ticks, ih, if_neg ticks]
        rfl

theorem tones_apply (alarm : Alarm) (call : Call) :
    (alarm.apply call).speaker.tones =
      alarm.speaker.tones + if call = .tick ∧ alarm.timers.sound = 1 then 1 else 0 := by
  cases call with
  | tick =>
    simp only [apply, Alarm.tick, Timers.toneDue, decide_eq_true_eq, true_and]
    split <;> rfl
  | _ => rfl

theorem ticksLeft_tick (calls : List Call) : ticksLeft (.tick :: calls) = ticksLeft calls + 1 := by
  simp [ticksLeft, Call.sound?]

theorem ticksLeft_setDelay (value : Int) (calls : List Call) :
    ticksLeft (.setDelay value :: calls) = ticksLeft calls := by
  simp [ticksLeft, Call.sound?]

/-- The tone, if any, that a sound of some level comes to by itself. -/
def outstanding (level : UInt8) (calls : List Call) : Nat :=
  if 0 < level.toNat ∧ level.toNat ≤ ticksLeft calls then 1 else 0

theorem outstanding_tick (level : UInt8) (calls : List Call) :
    outstanding level (.tick :: calls) =
      (if level = 1 then 1 else 0) + outstanding (Timers.countDown level) calls := by
  have lower := Timers.toNat_countDown level
  have one : level = 1 ↔ level.toNat = 1 := UInt8.toNat_inj.symm
  unfold outstanding
  rw [ticksLeft_tick, lower]
  simp only [one]
  split_ifs <;> omega

theorem outstanding_of_ticksLeft_eq_zero {calls : List Call} (spent : ticksLeft calls = 0)
    (level : UInt8) : outstanding level calls = 0 := by
  unfold outstanding
  rw [spent, if_neg]
  omega

theorem outstanding_lowByte (value : Int) (calls : List Call) :
    outstanding (lowByte value) calls =
      if 0 < value % 256 ∧ value % 256 ≤ ticksLeft calls then 1 else 0 := by
  have level := toNat_lowByte value
  unfold outstanding
  rw [← level]
  simp only [Int.natCast_pos, Int.ofNat_le]

/-- From any state on, the tones are those of the settings that run out and perhaps one of the sound
that is still running. -/
theorem tones_after (calls : List Call) (alarm : Alarm) :
    (after calls alarm).speaker.tones =
      alarm.speaker.tones + outstanding alarm.timers.sound calls + calls.tails.countP runsOut := by
  induction calls generalizing alarm with
  | nil =>
    rw [outstanding_of_ticksLeft_eq_zero rfl]
    rfl
  | cons call calls ih =>
    have first := tones_apply alarm call
    change (after calls (alarm.apply call)).speaker.tones = _
    rw [ih, first, List.tails_cons, List.countP_cons]
    cases call with
    | setDelay value =>
      have same : outstanding alarm.timers.sound (.setDelay value :: calls) =
          outstanding alarm.timers.sound calls := by
        unfold outstanding
        rw [ticksLeft_setDelay]
      rw [same]
      rfl
    | setSound value =>
      have begun : (alarm.apply (.setSound value)).timers.sound = lowByte value := rfl
      have ended : ticksLeft (.setSound value :: calls) = 0 := rfl
      rw [outstanding_of_ticksLeft_eq_zero ended, begun, outstanding_lowByte]
      simp only [runsOut, decide_eq_true_eq, reduceCtorEq, false_and, ↓reduceIte]
      omega
    | tick =>
      have lower : (alarm.apply .tick).timers.sound = Timers.countDown alarm.timers.sound := rfl
      rw [lower, outstanding_tick]
      simp only [runsOut, true_and, Bool.false_eq_true, ↓reduceIte]
      omega
    | reset =>
      have stopped : (alarm.apply .reset).timers.sound = 0 := rfl
      have ended : ticksLeft (.reset :: calls) = 0 := rfl
      rw [outstanding_of_ticksLeft_eq_zero ended, stopped]
      rfl

theorem after_append (calls later : List Call) (alarm : Alarm) :
    after (calls ++ later) alarm = after later (after calls alarm) :=
  List.foldl_append ..

def Undisturbed (calls : List Call) : Prop :=
  ∀ call ∈ calls, call.sound? = none

theorem ticksLeft_of_undisturbed {calls : List Call} (alone : Undisturbed calls) :
    ticksLeft calls = calls.count .tick := by
  induction calls with
  | nil => rfl
  | cons call calls ih =>
    have first : call.sound? = none := alone call (List.mem_cons_self ..)
    have others := ih fun other member => alone other (List.mem_cons_of_mem _ member)
    unfold ticksLeft at others ⊢
    simp only [List.takeWhile_cons, first, Option.isNone_none, ↓reduceIte, List.count_cons, others]

theorem countP_tails_of_undisturbed {calls : List Call} (alone : Undisturbed calls) :
    calls.tails.countP runsOut = 0 := by
  induction calls with
  | nil => rfl
  | cons call calls ih =>
    have others : Undisturbed calls := fun other member =>
      alone other (List.mem_cons_of_mem _ member)
    have first : call.sound? = none := alone call (List.mem_cons_self ..)
    rw [List.tails_cons, List.countP_cons, ih others]
    cases call with
    | setSound value => cases first
    | _ => rfl

theorem tones_setSound (value : Int) {calls : List Call} (alone : Undisturbed calls)
    (alarm : Alarm) :
    (after (.setSound value :: calls) alarm).speaker.tones =
      alarm.speaker.tones +
        if 0 < value % 256 ∧ value % 256 ≤ calls.count .tick then 1 else 0 := by
  change (after calls (alarm.apply (.setSound value))).speaker.tones = _
  rw [tones_after, countP_tails_of_undisturbed alone]
  change alarm.speaker.tones + outstanding (lowByte value) calls + 0 = _
  rw [outstanding_lowByte, ticksLeft_of_undisturbed alone]
  rfl

theorem tones_disturbed {value : Int} {calls : List Call} (alone : Undisturbed calls)
    (early : (calls.count .tick : Int) < value % 256) {next : Call} (disturbs : next.sound? ≠ none)
    (alarm : Alarm) :
    (after (.setSound value :: (calls ++ [next])) alarm).speaker.tones = alarm.speaker.tones := by
  have other : next ≠ .tick := by
    rintro rfl
    exact disturbs rfl
  have running : ¬ (0 < value % 256 ∧ value % 256 ≤ (calls.count .tick : Int)) := by omega
  rw [← List.cons_append, after_append]
  change ((after (.setSound value :: calls) alarm).apply next).speaker.tones = _
  rw [tones_apply, if_neg fun ticks => other ticks.1, tones_setSound value alone, if_neg running]
  rfl

/-- Whatever is done to new timers, each shows its last setting less the ticks since, and a tone has
sounded for each setting of the sound timer that was left alone for as many ticks. So a setting
sounds once at most, not at all if it is disturbed before it runs out, and nothing sounds by a tick
at zero. A machine that ticks in a world does to its timers and its speaker just what such a tick
does. -/
theorem timers_tell (kind : Speaker.Kind) (calls : List Call) :
    let alarm := after calls (new kind)
    (alarm.timers.delay.toNat ≤ 255 ∧ (alarm.timers.delay.toNat : Int) =
      max 0 (lastLevel Call.delay? calls - ticksSince Call.delay? calls)) ∧
    (alarm.timers.sound.toNat ≤ 255 ∧ (alarm.timers.sound.toNat : Int) =
      max 0 (lastLevel Call.sound? calls - ticksSince Call.sound? calls)) ∧
    alarm.speaker.tones = calls.tails.countP runsOut ∧
    (∀ before (value : Int) later, calls = before ++ .setSound value :: later →
      Undisturbed later →
      alarm.speaker.tones = (after before (new kind)).speaker.tones +
        if 0 < value % 256 ∧ value % 256 ≤ later.count .tick then 1 else 0) ∧
    (∀ before (value : Int) later next, calls = before ++ .setSound value :: (later ++ [next]) →
      Undisturbed later → (later.count .tick : Int) < value % 256 → next.sound? ≠ none →
      alarm.speaker.tones = (after before (new kind)).speaker.tones) ∧
    (∀ call, call ≠ .tick ∨ alarm.timers.sound = 0 →
      (alarm.apply call).speaker.tones = alarm.speaker.tones) ∧
    ∀ (m : Machine) (world : World),
      let s := stateAfter (Machine.tick World.host) (m, world)
      (⟨s.1.timers, s.2.speaker⟩ : Alarm) = apply ⟨m.timers, world.speaker⟩ .tick := by
  intro alarm
  refine ⟨⟨Nat.le_of_lt_succ alarm.timers.delay.toNat_lt, delay_countsDown.level kind calls⟩,
    ⟨Nat.le_of_lt_succ alarm.timers.sound.toNat_lt, sound_countsDown.level kind calls⟩,
    ?_, ?_, ?_, ?_, tick_of_world⟩
  · have tones := tones_after calls (new kind)
    change alarm.speaker.tones = 0 + 0 + _ at tones
    omega
  · rintro before value later rfl alone
    change (after (before ++ .setSound value :: later) (new kind)).speaker.tones = _
    rw [after_append, tones_setSound value alone]
  · rintro before value later next rfl alone early disturbs
    change (after (before ++ .setSound value :: (later ++ [next])) (new kind)).speaker.tones = _
    rw [after_append, tones_disturbed alone early disturbs]
  · intro call idle
    have silent : ¬ (call = .tick ∧ alarm.timers.sound = 1) := by
      rintro ⟨ticks, sounding⟩
      rcases idle with other | stopped
      · exact other ticks
      · rw [stopped] at sounding
        cases sounding
    rw [tones_apply, if_neg silent]
    rfl

theorem timers_tell_rearmed :
    let first := after [.setSound 2, .tick, .setSound 0x101] (new .silent)
    let last := after [.setSound 2, .tick, .setSound 0x101, .tick, .tick] (new .silent)
    first.speaker.tones = 0 ∧ first.timers.sound.toNat = 1 ∧ last.timers.sound.toNat = 0 ∧
      last.speaker.tones = 1 ∧ (last.apply .tick).speaker.tones = 1 := by
  intro first last
  have early : Undisturbed [.tick] := by simp [Undisturbed, Call.sound?]
  have late : Undisturbed [.tick, .tick] := by simp [Undisturbed, Call.sound?]
  obtain ⟨-, ⟨-, begun⟩, -, -, disturbed, -⟩ :=
    timers_tell .silent [.setSound 2, .tick, .setSound 0x101]
  obtain ⟨-, ⟨-, done⟩, -, alone, -, idle, -⟩ :=
    timers_tell .silent [.setSound 2, .tick, .setSound 0x101, .tick, .tick]
  have silent : first.speaker.tones = 0 :=
    disturbed [] 2 [.tick] (.setSound 0x101) rfl early (by decide) (by decide)
  have heard : last.speaker.tones = 1 := alone [.setSound 2, .tick] 0x101 _ rfl late
  have stopped : last.timers.sound.toNat = 0 := Int.natCast_inj.1 done
  have same := idle .tick (.inr (UInt8.toNat_inj.1 stopped))
  exact ⟨silent, Int.natCast_inj.1 begun, stopped, heard, same.trans heard⟩

end Alarm

end Chip8
