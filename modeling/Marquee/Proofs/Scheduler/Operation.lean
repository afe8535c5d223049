import Marquee.Proofs.Scheduler.Work

namespace Marquee

structure Setup (γ σ : Type) where
  catalog : Catalog
  settings : Settings
  gate : Settings → γ
  outside : σ
  clock : Instant := 0
  wallAtZero : Float := 1700000000
  channel : Option Channel := some {}
  board : Option Board := some {}

def Setup.scheduler {γ σ : Type} (u : Setup γ σ) : Scheduler γ σ :=
  { (Scheduler.new u.catalog u.settings u.gate u.outside).value with
    clock := u.clock
    wallAtZero := u.wallAtZero
    channel := u.channel
    board := u.board }

inductive Operation (σ : Type)
  | tick
  | poll
  | expire
  | advance
  /-- Time passes and the world changes by itself; a run may be given a deadline or lose it. -/
  | meanwhile (span : Span) (outside : σ) (deadline : Option Instant)

namespace Scheduler

variable {γ σ : Type} [HealthGate γ]

def perform (w : World σ) (s : Scheduler γ σ) : Operation σ → Scheduler γ σ
  | .tick => (s.tick w).2
  | .poll => (s.pollOnDemand w).2
  | .expire => s.checkExpiration.2
  | .advance => s.advanceRotation
  | .meanwhile span outside deadline => { s with clock := s.clock + span, outside, deadline }

def performAll (w : World σ) (s : Scheduler γ σ) (ops : List (Operation σ)) : Scheduler γ σ :=
  ops.foldl (perform w) s

def operationKinds : List MoveKind :=
  .elapsed :: tickKinds

lemma perform_moves (w : World σ) (s : Scheduler γ σ) (op : Operation σ) :
    Moves w operationKinds s (s.perform w op) := by
  cases op with
  | tick => exact (tick_moves w s).mono (by decide)
  | poll => exact (pollOnDemand_moves w s).mono (by decide)
  | expire => exact (checkExpiration_moves w s).mono (by decide)
  | advance => exact (Moves.single (.rotated s)).mono (by decide)
  | meanwhile span outside deadline =>
    exact (Moves.single (.elapsed s span outside deadline)).mono (by decide)

@[simp] lemma performAll_nil (w : World σ) (s : Scheduler γ σ) : s.performAll w [] = s := rfl

lemma performAll_singleton (w : World σ) (s : Scheduler γ σ) (op : Operation σ) :
    s.performAll w [op] = s.perform w op :=
  rfl

lemma performAll_keeps {w : World σ} {P : Scheduler γ σ → Prop} {ops : List (Operation σ)}
    {s : Scheduler γ σ} (step : ∀ op ∈ ops, ∀ s, P s → P (s.perform w op)) (hs : P s) :
    P (s.performAll w ops) := by
  induction ops generalizing s with
  | nil => exact hs
  | cons op ops ih =>
    exact ih (fun op hop => step op (by simp [hop])) (step op (by simp) s hs)

lemma performAll_of_moves {w : World σ} {P : Scheduler γ σ → Prop} {s : Scheduler γ σ}
    (move : ∀ kind a b, Move w kind a b → P a → P b) (hs : P s) (ops : List (Operation σ)) :
    P (s.performAll w ops) :=
  performAll_keeps
    (fun op _ s => (perform_moves w s op).keep fun kind _ a b => move kind a b) hs

end Scheduler

namespace Setup

variable {γ σ : Type} (u : Setup γ σ)

@[simp] lemma scheduler_catalog : u.scheduler.catalog = u.catalog := rfl

@[simp] lemma scheduler_rotation : u.scheduler.rotation = { screens := u.catalog.screens } := rfl

@[simp] lemma scheduler_session : u.scheduler.session = {} := rfl

@[simp] lemma scheduler_journal : u.scheduler.journal = [] := rfl

end Setup

end Marquee
