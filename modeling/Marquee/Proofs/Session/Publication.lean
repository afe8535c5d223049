import Marquee.Proofs.Scheduler.Robust
import Marquee.Proofs.Script

/-! What was published last tells of the session in force, whenever a frame is drawn and after every
operation: each change of the session is published before anyone can look. -/

namespace Marquee

structure Snapshot.Tells (p : Snapshot) (session : Session) (now : Instant) : Prop where
  active : p.active = session.isActive
  mode : p.mode = session.screen?.map Screen.mode
  provider : p.provider = session.screen?.map Screen.provider
  requestedAt : p.requestedAt = session.running.map RunningSession.requestedAtWall
  expiresAt : p.expiresAt = session.running.bind fun r =>
    r.limit.map fun limit => r.requestedAtWall + limit.seconds
  duration : p.duration = session.limit?.map SessionLimit.seconds
  pinned : p.pinned = session.isPinned
  status : p.status = session.status
  error : p.error = session.error
  lastEvent : p.lastEvent = session.lastEvent
  remaining : p.remaining = (session.remaining now).map Span.seconds

lemma Session.snapshot_tells (s : Session) (now : Instant) : (s.snapshot now).Tells s now :=
  ⟨rfl, rfl, rfl, rfl, rfl, rfl, rfl, rfl, rfl, rfl, rfl⟩

namespace Journal

def published? : Journal → Option (Snapshot × Instant)
  | [] => none
  | .published snapshot t :: _ => some (snapshot, t)
  | _ :: j => published? j

lemma published?_append {new j : Journal} {kind : MoveKind} (hk : kind ≠ .published)
    (h : ∀ e ∈ new, kind ∈ e.leftBy) : published? (new ++ j) = published? j := by
  induction new with
  | nil => rfl
  | cons e new ih =>
    have rest := ih fun e he => h e (by simp [he])
    cases e with
    | published snapshot t => exact absurd (List.mem_singleton.mp (h _ List.mem_cons_self)) hk
    | _ => exact rest

end Journal

def Event.Told (e : Event) (before : Journal) : Prop :=
  match e with
  | .drawn f => ∀ snapshot t, before.published? = some (snapshot, t) → snapshot.Tells f.session t
  | _ => True

lemma Event.told_of_leftBy {e : Event} {kind : MoveKind} (hk : kind ≠ .drew)
    (h : kind ∈ e.leftBy) (before : Journal) : e.Told before := by
  cases e with
  | drawn f => exact absurd (List.mem_singleton.mp h) hk
  | _ => trivial

namespace Scheduler

variable {γ σ : Type} {s s' : Scheduler γ σ}

structure Accounted (s : Scheduler γ σ) : Prop where
  told : s.journal.Always Event.Told
  boardless : s.board = none → s.journal.published? = none

structure Current (s : Scheduler γ σ) : Prop extends Accounted s where
  tells : ∀ snapshot t, s.journal.published? = some (snapshot, t) →
    s.board = some ⟨some snapshot⟩ ∧ snapshot.Tells s.session t

lemma current_setup (u : Setup γ σ) : u.scheduler.Current :=
  ⟨⟨trivial, fun _ => rfl⟩, fun _ _ h => by cases h⟩

lemma Accounted.publish (h : s.Accounted) : s.publish.Current := by
  rw [Scheduler.publish]
  cases hb : s.board with
  | none =>
    have hnone := h.boardless hb
    exact ⟨h, fun snapshot t hp => by simp [hnone] at hp⟩
  | some board =>
    refine ⟨⟨⟨trivial, h.told⟩, fun hnone => by cases hnone⟩, ?_⟩
    intro snapshot t hp
    cases hp
    exact ⟨rfl, s.session.snapshot_tells s.clock⟩

variable [HealthGate γ] {w : World σ} {kind : MoveKind} {kinds : List MoveKind}

lemma Move.accounted (h : Move w kind s s') (hk : kind ≠ .drew) (hs : s.Accounted) :
    s'.Accounted := by
  by_cases hp : kind = .published
  · cases h with
    | published s => exact hs.publish.toAccounted
    | _ => cases hp
  · obtain ⟨new, hj, hnew⟩ := h.entries
    have hpub := Journal.published?_append (j := s.journal) hp fun e he => (hnew e he).1
    refine ⟨?_, ?_⟩
    · rw [hj]
      exact hs.told.append fun e he j => Event.told_of_leftBy hk (hnew e he).1 j
    · rw [hj, hpub, h.kept.board (by simpa using hp)]
      exact hs.boardless

lemma Move.current (h : Move w kind s s') (hk : kind ∉ sessionKinds) (hs : s.Current) :
    s'.Current := by
  by_cases hp : kind = .published
  · cases h with
    | published s => exact hs.publish
    | _ => cases hp
  · obtain ⟨new, hj, hnew⟩ := h.entries
    have hpub := Journal.published?_append (j := s.journal) hp fun e he => (hnew e he).1
    have tells : ∀ snapshot t, s'.journal.published? = some (snapshot, t) →
        s'.board = some ⟨some snapshot⟩ ∧ snapshot.Tells s'.session t := by
      rw [hj, hpub, h.kept.board (by simpa using hp), h.kept.session hk]
      exact hs.tells
    by_cases hd : kind = .drew
    · cases h with
      | drew s p forceClear =>
        exact ⟨⟨⟨fun snapshot t hp => (hs.tells snapshot t hp).2, hs.told⟩, hs.boardless⟩, tells⟩
      | _ => cases hd
    · exact ⟨h.accounted hd hs.toAccounted, tells⟩

lemma Moves.current (h : Moves w kinds s s') (hk : ∀ kind ∈ kinds, kind ∉ sessionKinds)
    (hs : s.Current) : s'.Current :=
  h.keep (fun kind hm _ _ move => move.current (hk kind hm)) hs

lemma pollOnDemand_current (w : World σ) (hs : s.Current) : (s.pollOnDemand w).2.Current := by
  have hp := pollOnDemand_polled w s
  generalize s.pollOnDemand w = polled at hp ⊢
  obtain ⟨answer, s'⟩ := polled
  have heard (r : Request) : (s.heard w r).Accounted :=
    ((heard_moves w s r).current (by decide) hs).toAccounted
  cases hp with
  | nothing => exact (unheard_moves w s).current (by decide) hs
  | started r screen _ _ ok =>
    have move := Move.started (w := w) (s.heard w r) screen r (by rwa [heard_catalog])
    exact (move.accounted (by decide) (heard r)).publish
  | turnedDown r refusal =>
    have move := Move.refused (w := w) (s.heard w r) r refusal
    exact (move.accounted (by decide) (heard r)).publish
  | stopped r _ _ active =>
    have move := Move.left (w := w) (s.heard w r) _ _ (.stopped (by rwa [heard_session]))
    exact (move.accounted (by decide) (heard r)).publish
  | ignored r => exact (heard r).publish

lemma checkExpiration_current (w : World σ) (hs : s.Current) : s.checkExpiration.2.Current := by
  rw [checkExpiration_eq]
  split
  next expired =>
    have move := Move.left (w := w) s _ _ (.expired expired)
    exact (move.accounted (by decide) hs.toAccounted).publish
  next => exact hs

lemma robust_current (w : World σ) : Robust w (Current : Scheduler γ σ → Prop) where
  move h hk hs := h.current (not_mem_sessionKinds hk) hs
  poll _ hs := pollOnDemand_current w hs
  expire _ hs := checkExpiration_current w hs

lemma Step.current {a b : Stage × Scheduler γ σ} (h : Step w a b) (he : EntitledAt a.1 a.2)
    (hs : a.2.Current) : b.2.Current := by
  by_cases hb : BreaksOff a.1
  · cases h with
    | concluded s selection ending =>
      obtain ⟨hsource, error, rfl, hconclude⟩ := conclude_broken w hb s
      have moves := blamed_moves w selection error s
      have blamed := moves.current (by decide) hs
      have entitled : s.Entitled selection := he (by simp)
      have active := (entitled.calm (moves.calm (by decide))).isActive hsource
      have left := Move.left (w := w) _ _ _ (.broken error active)
      rw [hconclude]
      exact (paceAfterPass_moves w _).current (by decide)
        (left.accounted (by decide) blamed.toAccounted).publish
    | _ => exact hb.elim
  · exact (robust_current w).step h he hb hs

lemma perform_current (w : World σ) (op : Operation σ) (hs : s.Current) :
    (s.perform w op).Current :=
  (robust_current w).perform (fun hs => (tick_steps w s).invariant_of_entitled
    (fun _ s' => s'.Current) (fun _ _ step he h => step.current he h) trivial hs) op hs

/-- After any operations the last snapshot tells of the session in force, with the time that was left
to it when this was published. The frames were all drawn while this was so. -/
theorem published_state_tells_of_session (u : Setup γ σ) (w : World σ) (ops : List (Operation σ)) :
    let s := u.scheduler.performAll w ops
    (∀ snapshot t, s.journal.published? = some (snapshot, t) →
      s.board = some ⟨some snapshot⟩ ∧ snapshot.Tells s.session t) ∧
    ∀ (later before : Journal) (f : Frame), s.journal = later ++ .drawn f :: before →
      ∀ snapshot t, before.published? = some (snapshot, t) → snapshot.Tells f.session t := by
  intro s
  have current : s.Current :=
    performAll_keeps (fun op _ _ hs => perform_current w op hs) (current_setup u)
  refine ⟨current.tells, ?_⟩
  intro later before f hj
  have told := current.told
  rw [hj] at told
  exact told.of_split

def brokenSession : Script :=
  { polls := [[.startMode "1" "scores_live"]], broken := [⟨"scores_live", "scores"⟩] }

theorem broken_session_is_published :
    (∃ snapshot t, (brokenSession.play [.tick]).board = some ⟨some snapshot⟩ ∧
      snapshot.Tells (brokenSession.play [.tick]).session t ∧
      snapshot.error = some "display_failed") ∧
    ∃ (later before : Journal) (f : Frame),
      (brokenSession.play [.tick]).journal = later ++ .drawn f :: before ∧
      ∃ snapshot t, before.published? = some (snapshot, t) ∧ snapshot.Tells f.session t ∧
        snapshot.mode = some "scores_live" := by
  have h := published_state_tells_of_session brokenSession.setup Script.world [.tick]
  constructor
  · have published : (brokenSession.play [.tick]).journal.published?.isSome := by decide +kernel
    obtain ⟨⟨snapshot, t⟩, hp⟩ := Option.isSome_iff_exists.mp published
    obtain ⟨board, tells⟩ := h.1 snapshot t hp
    exact ⟨snapshot, t, board, tells, tells.error.trans (by decide +kernel)⟩
  · let j := (brokenSession.play [.tick]).journal
    obtain ⟨f, drawn, published, hmode⟩ : ∃ f ∈ j.at? 6 Event.frame?,
        (Journal.published? (j.drop 7)).isSome ∧ f.session.screen?.map Screen.mode = some "scores_live" := by
      decide +kernel
    have hj := Journal.split_at_frame drawn
    obtain ⟨⟨snapshot, t⟩, hp⟩ := Option.isSome_iff_exists.mp published
    have tells := h.2 _ _ f hj snapshot t hp
    exact ⟨_, _, f, hj, snapshot, t, hp, tells, tells.mode.trans hmode⟩

end Scheduler

end Marquee
