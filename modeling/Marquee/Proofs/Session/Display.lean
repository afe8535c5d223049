import Marquee.Proofs.Script
import Marquee.Proofs.Session.Record

/-! Who has the display: while there is a session each frame is one of its screen, and otherwise none
is drawn on demand. -/

namespace Marquee

/-- A frame of a session shows its screen before its time is up; without a session a frame is shown
by rotation or for its live content. -/
def Frame.Belongs (f : Frame) (before : Journal) : Prop :=
  match before.session? with
  | some session => ∃ running, session.running = some running ∧ f.session.running = some running ∧
      f.screen = running.screen ∧ f.source = .onDemand ∧
      ∀ limit, running.limit = some limit → f.time < limit.expiresAt
  | none => f.session.running = none ∧ f.source ≠ .onDemand

def Event.Belongs (e : Event) (before : Journal) : Prop :=
  match e with
  | .drawn f => f.Belongs before
  | _ => True

lemma Event.belongs_of_not_isLoud {e : Event} (h : e.isLoud = false) (before : Journal) :
    e.Belongs before := by
  cases e <;> simp_all [Event.isLoud, Event.Belongs]

namespace Scheduler

variable {γ σ : Type} {s s' : Scheduler γ σ}

structure Orderly (s : Scheduler γ σ) : Prop where
  recorded : s.Recorded
  belongs : s.journal.Always Event.Belongs

lemma Recorded.belongs (h : s.Recorded) {p : Showing} (hs : s.Entitled p.selection)
    (ht : s.session.isExpired s.clock = false) (forceClear : Bool) (drawing : Drawing) :
    Frame.Belongs ⟨p.screen, p.selection.source, forceClear, s.clock, s.session, drawing⟩
      s.journal := by
  rw [Recorded] at h
  rw [Frame.Belongs]
  cases hj : s.journal.session? with
  | none =>
    rw [hj, Option.map_none, eq_comm, Option.map_eq_none_iff] at h
    refine ⟨h, ?_⟩
    intro hd
    have hactive := hs.isActive hd
    simp [Session.isActive, h] at hactive
  | some begun =>
    rw [hj, Option.map_some, eq_comm, Option.map_eq_some_iff] at h
    obtain ⟨running, hr, hb⟩ := h
    have hd : p.selection.source = .onDemand := by
      refine Decidable.byContradiction fun hd => ?_
      simp [hs.running_eq_none hd] at hr
    rw [Entitled, hd] at hs
    refine ⟨running, hb.symm, hr, ?_, hd, ?_⟩
    · simp only [Session.screen?, hr, Option.map_some, Option.some.injEq] at hs
      exact hs.symm
    · intro limit hl
      simpa [Session.isExpired, Session.limit?, hr, hl] using ht

lemma orderly_setup (u : Setup γ σ) : u.scheduler.Orderly :=
  ⟨recorded_setup u, trivial⟩

variable [HealthGate γ] {w : World σ} {kind : MoveKind}

lemma Move.orderly (h : Move w kind s s') (hs : s.Orderly) : s'.Orderly := by
  refine ⟨h.recorded hs.recorded, ?_⟩
  by_cases hk : kind ∈ calmKinds
  · exact (h.calm hk).always (fun _ j he => Event.belongs_of_not_isLoud he j) hs.belongs
  · cases h with
    | started s screen r =>
      obtain ⟨ns, ns', session, running, hstart, -⟩ := startSession_eq s screen r
      rw [hstart]
      exact ⟨trivial, ((calm_note s ns).trans (calm_note _ ns')).always
        (fun _ j he => Event.belongs_of_not_isLoud he j) hs.belongs⟩
    | left s ended n =>
      obtain ⟨ns, rotation, hleave⟩ := leaveSession_marks s ended n
      rw [hleave]
      exact ⟨trivial, (calm_note s ns).always
        (fun _ j he => Event.belongs_of_not_isLoud he j) hs.belongs⟩
    | rotated s =>
      rw [advanceRotation_journal]
      split
      · exact hs.belongs
      · exact ⟨trivial, hs.belongs⟩
    | setAside s provider => exact hs.belongs
    | opened s selection =>
      obtain ⟨s₁, airtime, before, after⟩ := openShowing_marks w selection s
      have hquiet := before.always (fun _ j he => Event.belongs_of_not_isLoud he j) hs.belongs
      exact after.always (fun _ j he => Event.belongs_of_not_isLoud he j) ⟨trivial, hquiet⟩
    | drew s p forceClear entitled inTime =>
      exact ⟨hs.recorded.belongs entitled inTime forceClear _, hs.belongs⟩
    | _ => simp [calmKinds] at hk

/-- In a run of operations, whatever is sent between the polls, every frame is one of the session in
force at that moment, before its time is up. Without a session none is drawn on demand. -/
theorem frames_belong_to_session (u : Setup γ σ) (w : World σ) (ops : List (Operation σ))
    (later before : Journal) (f : Frame)
    (h : (u.scheduler.performAll w ops).journal = later ++ .drawn f :: before) :
    f.Belongs before := by
  have ordered : (u.scheduler.performAll w ops).Orderly :=
    performAll_of_moves (fun _ _ _ move => move.orderly) (orderly_setup u) ops
  have hbelongs := ordered.belongs
  rw [h] at hbelongs
  exact hbelongs.of_split

def boundedSession : Script :=
  { polls := [[{ Request.startMode "1" "scores_live" with duration := some 1 }]] }

theorem bounded_session_frame_belongs :
    ∃ (later before : Journal) (f : Frame),
      (boundedSession.play [.tick]).journal = later ++ .drawn f :: before ∧
      f.screen = ⟨"scores_live", "scores"⟩ ∧ f.source = .onDemand ∧ f.Belongs before :=
  ⟨[_, _, _], _, _, rfl, by rfl, by rfl,
    frames_belong_to_session boundedSession.setup Script.world [.tick] [_, _, _] _ _ rfl⟩

end Scheduler

end Marquee
