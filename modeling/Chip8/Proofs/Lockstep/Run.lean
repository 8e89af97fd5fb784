import Chip8.Proofs.Lockstep.History

namespace Chip8

variable {τ σ σ' α β : Type} {H : σ → σ' → Prop}

structure Host.AlikeThroughout (H : σ → σ' → Prop) (host : Host τ σ) (host' : Host τ σ') : Prop
    extends Host.Alike (· = ·) H host host' where
  now : Lockstep (· = ·) H host.now host'.now
  sleep : ∀ rest, Lockstep (· = ·) H (host.sleep rest) (host'.sleep rest)
  poll : ∀ keypad, Lockstep (· = ·) H (host.poll keypad) (host'.poll keypad)
  title : ∀ text, Lockstep (· = ·) H (host.title text) (host'.title text)

namespace Session

abbrev OnBoth (H : σ → σ' → Prop) (action : Session σ α) (action' : Session σ' α) : Prop :=
  Lockstep (· = ·) (Both (· = ·) H) action action'

theorem onBoth_machine (action : EStateM Fault Machine α) :
    OnBoth H (machine action) (machine action) := by
  rintro ⟨m, world⟩ ⟨_, world'⟩ ⟨rfl, hosts⟩
  exact alike_machine (Machine.lockstep_refl (fun _ => rfl) action m m rfl) hosts

theorem onBoth_host {action : EStateM Fault σ α} {action' : EStateM Fault σ' α}
    (alike : Lockstep (· = ·) H action action') : OnBoth H (host action) (host action') :=
  fun _ _ both => alike_host both.machines (alike _ _ both.hosts)

theorem onBoth_get {next : Machine × σ → Session σ α} {next' : Machine × σ' → Session σ' α}
    (rest : ∀ m world world', OnBoth H (next (m, world)) (next' (m, world'))) :
    OnBoth H (get >>= next) (get >>= next') := by
  rintro ⟨m, world⟩ ⟨_, world'⟩ ⟨rfl, hosts⟩
  exact rest m world world' (m, world) (m, world') ⟨rfl, hosts⟩

end Session

namespace Machine

open Session (OnBoth onBoth_machine onBoth_host onBoth_get)

variable {host : Host τ σ} {host' : Host τ σ'}

theorem onBoth_tick (hosts : Host.Alike (· = ·) H host host') :
    OnBoth H (tick host) (tick host') := by
  unfold tick
  refine onBoth_get fun m _ _ => (onBoth_machine _).bind fun _ => ?_
  split
  · exact onBoth_host hosts.tone
  · exact Lockstep.pure ()

theorem onBoth_frame (hosts : Host.Alike (· = ·) H host host') :
    OnBoth H (frame host) (frame host') := by
  unfold frame refresh
  refine onBoth_get fun m _ _ =>
    (onBoth_machine _).bind fun _ => (onBoth_tick hosts).bind fun _ => ?_
  exact (onBoth_get fun m _ _ => onBoth_host (hosts.present m.screen.frame)).bind fun _ =>
    onBoth_machine _

theorem onBoth_report (hosts : host.AlikeThroughout H host') :
    OnBoth H (report host) (report host') := by
  unfold report
  exact onBoth_get fun _ _ _ => (onBoth_host (hosts.title _)).bind fun _ => onBoth_machine _

theorem onBoth_pollHost (hosts : host.AlikeThroughout H host') :
    OnBoth H (pollHost host) (pollHost host') := by
  unfold pollHost
  exact onBoth_get fun _ _ _ => (onBoth_host (hosts.poll _)).bind fun _ =>
    (onBoth_machine _).bind fun _ => Lockstep.pure _

section

variable [Add τ] [LE τ] [DecidableLE τ]

theorem onBoth_beforeFrame (hosts : host.AlikeThroughout H host') (tempo : Tempo τ)
    (pacing : Pacing τ) (now : τ) :
    OnBoth H (beforeFrame host tempo pacing now) (beforeFrame host' tempo pacing now) := by
  unfold beforeFrame
  cases pacing.reportDue now with
  | false => exact (onBoth_pollHost hosts).bind fun _ => Lockstep.pure _
  | true =>
    exact (onBoth_report hosts).bind fun _ =>
      (onBoth_pollHost hosts).bind fun _ => Lockstep.pure _

theorem onBoth_openTurn [LT τ] [DecidableLT τ]
    (hosts : host.AlikeThroughout H host') (tempo : Tempo τ) (pacing : Pacing τ) (now : τ) :
    OnBoth H (openTurn host tempo pacing now) (openTurn host' tempo pacing now) := by
  refine (onBoth_beforeFrame hosts tempo pacing now).bind fun (quit, next) => ?_
  cases quit with
  | true => exact Lockstep.pure _
  | false => exact (onBoth_frame hosts.toAlike).bind fun _ => Lockstep.pure _

end

variable [Add τ] [Sub τ] [LT τ] [LE τ] [DecidableLT τ] [DecidableLE τ] [OfNat τ 0]

theorem onBoth_turn (hosts : host.AlikeThroughout H host') (tempo : Tempo τ) (pacing : Pacing τ) :
    OnBoth H (turn host tempo pacing) (turn host' tempo pacing) := by
  refine (onBoth_host hosts.now).bind fun now => ?_
  refine (onBoth_openTurn hosts tempo pacing now).bind fun (quit, next) => ?_
  cases quit with
  | true => exact Lockstep.pure _
  | false =>
    refine (onBoth_host hosts.now).bind fun after => ?_
    cases next.pause after with
    | some rest => exact (onBoth_host (hosts.sleep rest)).bind fun _ => Lockstep.pure _
    | none => exact Lockstep.pure _

theorem onBoth_turns (hosts : host.AlikeThroughout H host') (tempo : Tempo τ) (fuel : Nat)
    (left : Option Nat) (pacing : Pacing τ) :
    OnBoth H (turns host tempo fuel left pacing) (turns host' tempo fuel left pacing) := by
  induction fuel generalizing left pacing with
  | zero =>
    match left with
    | none | some 0 | some (_ + 1) => exact Lockstep.pure _
  | succ fuel ih =>
    match left with
    | some 0 => exact Lockstep.pure _
    | none | some (_ + 1) =>
      refine (onBoth_turn hosts tempo pacing).bind fun answer => ?_
      cases answer with
      | none => exact Lockstep.pure _
      | some next => exact ih _ next

theorem onBoth_run (hosts : host.AlikeThroughout H host') (tempo : Tempo τ) (fuel : Nat)
    (maxFrames : Option Int) :
    OnBoth H (run host tempo fuel maxFrames) (run host' tempo fuel maxFrames) :=
  (onBoth_host hosts.now).bind fun now => onBoth_turns hosts tempo fuel _ (Pacing.start tempo now)

end Machine

end Chip8
