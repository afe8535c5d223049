import Marquee.Proofs.Scheduler.Move

namespace Marquee

lemma Session.isActive_of_isExpired {s : Session} {now : Instant} (h : s.isExpired now) :
    s.isActive := by
  cases hr : s.running <;> simp_all [Session.isExpired, Session.limit?, Session.isActive]

namespace Scheduler

variable {γ σ : Type} (w : World σ) (s : Scheduler γ σ)

def heard (r : Request) : Scheduler γ σ :=
  (s.receive w).takeRequest.2.log (.taken r s.clock)

def TurnsDown (c : Catalog) (r : Request) (refusal : Refusal) : Prop :=
  (r.action = .start ∧ resolveRequest c r = .error refusal) ∨
    ∃ action, r.action = .unknown action ∧ refusal = .invalidAction action

inductive Polled : Bool → Scheduler γ σ → Prop
  | nothing : (s.receive w).takeRequest.1 = none → Polled false (s.receive w).takeRequest.2
  | started (r : Request) (screen : Screen) : (s.receive w).takeRequest.1 = some r →
      r.action = .start → resolveRequest s.catalog r = .ok screen →
      Polled true ((s.heard w r).startSession screen r).publish
  | turnedDown (r : Request) (refusal : Refusal) : (s.receive w).takeRequest.1 = some r →
      TurnsDown s.catalog r refusal → Polled false ((s.heard w r).reject r refusal).publish
  | stopped (r : Request) : (s.receive w).takeRequest.1 = some r → r.action = .stop →
      s.session.isActive →
      Polled true ((s.heard w r).leaveSession (s.session.finish "stopped")
        (.sessionEnded "stopped")).publish
  | ignored (r : Request) : (s.receive w).takeRequest.1 = some r → r.action = .stop →
      s.session.isActive = false → Polled false (s.heard w r).publish

@[simp] lemma takeRequest_clock : s.takeRequest.2.clock = s.clock := by
  rw [takeRequest]
  split <;> rfl

@[simp] lemma takeRequest_catalog : s.takeRequest.2.catalog = s.catalog := by
  rw [takeRequest]
  split <;> rfl

@[simp] lemma takeRequest_session : s.takeRequest.2.session = s.session := by
  rw [takeRequest]
  split <;> rfl

@[simp] lemma takeRequest_journal : s.takeRequest.2.journal = s.journal := by
  rw [takeRequest]
  split <;> rfl

@[simp] lemma publish_catalog : s.publish.catalog = s.catalog := by
  rw [publish]
  split <;> rfl

@[simp] lemma publish_session : s.publish.session = s.session := by
  rw [publish]
  split <;> rfl

@[simp] lemma heard_catalog (r : Request) : (s.heard w r).catalog = s.catalog :=
  takeRequest_catalog (s.receive w)

@[simp] lemma heard_session (r : Request) : (s.heard w r).session = s.session :=
  takeRequest_session (s.receive w)

@[simp] lemma heard_clock (r : Request) : (s.heard w r).clock = s.clock :=
  takeRequest_clock (s.receive w)

lemma heard_journal (r : Request) : (s.heard w r).journal = .taken r s.clock :: s.journal :=
  congrArg _ (takeRequest_journal (s.receive w))

lemma pollOnDemand_polled : Polled w s (s.pollOnDemand w).1 (s.pollOnDemand w).2 := by
  rw [pollOnDemand]
  dsimp only
  split
  next none => exact .nothing none
  next r some =>
    change Polled w s ((s.heard w r).obey r).1 ((s.heard w r).obey r).2.publish
    rw [obey]
    split
    next start =>
      split
      next screen ok =>
        rw [heard_catalog] at ok
        exact .started r screen some start ok
      next refusal error =>
        rw [heard_catalog] at error
        exact .turnedDown r refusal some (.inl ⟨start, error⟩)
    next stop =>
      rw [endSession]
      split
      next active =>
        rw [heard_session] at active
        exact .stopped r some stop active
      next inactive =>
        rw [heard_session] at inactive
        exact .ignored r some stop (by simpa using inactive)
    next action unknown => exact .turnedDown r _ some (.inr ⟨action, unknown, rfl⟩)

lemma checkExpiration_eq :
    s.checkExpiration =
      if s.session.isExpired s.clock then
        (true, (s.leaveSession (s.session.finish "expired") (.sessionEnded "expired")).publish)
      else (false, s) := by
  unfold checkExpiration endSession
  split
  next expired => simp [Session.isActive_of_isExpired expired]
  next => rfl

def listeningKinds : List MoveKind :=
  [.received, .took, .started, .left, .refused, .published]

variable [HealthGate γ]

lemma unheard_moves : Moves w [.received, .took] s (s.receive w).takeRequest.2 :=
  (Moves.single (.received s)).andThen (.single (.emptied _))

lemma heard_moves (r : Request) : Moves w [.received, .took] s (s.heard w r) := by
  have heard : Move w .took (s.receive w).takeRequest.2 (s.heard w r) := by
    have hm := Move.took (w := w) (s.receive w).takeRequest.2 r
    rwa [takeRequest_clock] at hm
  exact ((unheard_moves w s).andThen (.single heard)).mono (by decide)

variable {s} in
lemma Polled.nothing_or_heard {answer : Bool} {s' : Scheduler γ σ} (h : Polled w s answer s') :
    answer = false ∧ s' = (s.receive w).takeRequest.2 ∨
      ∃ r, Moves w [.started, .left, .refused, .published] (s.heard w r) s' := by
  cases h with
  | nothing => exact .inl ⟨rfl, rfl⟩
  | started r screen _ _ ok =>
    have hm := Move.started (w := w) (s.heard w r) screen r (by rwa [heard_catalog])
    exact .inr ⟨r, ((Moves.single hm).andThen (.single (.published _))).mono (by decide)⟩
  | turnedDown r refusal =>
    have hm := Move.refused (w := w) (s.heard w r) r refusal
    exact .inr ⟨r, ((Moves.single hm).andThen (.single (.published _))).mono (by decide)⟩
  | stopped r _ _ active =>
    have hm := Move.left (w := w) (s.heard w r) _ _ (.stopped (by rwa [heard_session]))
    exact .inr ⟨r, ((Moves.single hm).andThen (.single (.published _))).mono (by decide)⟩
  | ignored r => exact .inr ⟨r, (Moves.single (.published _)).mono (by decide)⟩

lemma pollOnDemand_moves : Moves w listeningKinds s (s.pollOnDemand w).2 := by
  rcases (pollOnDemand_polled w s).nothing_or_heard with ⟨-, hs⟩ | ⟨r, obeyed⟩
  · rw [hs]
    exact (unheard_moves w s).mono (by decide)
  · exact (heard_moves w s r).andThen obeyed

lemma checkExpiration_moves : Moves w [.left, .published] s s.checkExpiration.2 := by
  rw [checkExpiration_eq]
  split
  next expired =>
    exact (Moves.single (.left s _ _ (.expired expired))).andThen (.single (.published _))
  next => exact .refl s

lemma pollOnDemand_moves_of_false (h : (s.pollOnDemand w).1 = false) :
    Moves w [.received, .took, .refused, .published] s (s.pollOnDemand w).2 := by
  have hp := pollOnDemand_polled w s
  generalize s.pollOnDemand w = polled at hp h ⊢
  obtain ⟨answer, s'⟩ := polled
  obtain rfl : answer = false := h
  cases hp with
  | nothing => exact (unheard_moves w s).mono (by decide)
  | turnedDown r refusal =>
    have hm := Move.refused (w := w) (s.heard w r) r refusal
    exact (heard_moves w s r).andThen ((Moves.single hm).andThen (.single (.published _)))
  | ignored r =>
    exact ((heard_moves w s r).andThen (.single (.published _))).mono (by decide)

end Scheduler

end Marquee
