import Marquee.Proofs.Scheduler.Operation

namespace Marquee.Scheduler

variable {γ σ : Type} {s s' : Scheduler γ σ}

def Recorded (s : Scheduler γ σ) : Prop :=
  s.journal.session?.map Session.running = s.session.running.map some

lemma Recorded.isActive (h : s.Recorded) : s.session.isActive = s.journal.session?.isSome := by
  have hs := congrArg Option.isSome h
  simpa [Session.isActive] using hs.symm

lemma Recorded.calm (h : s.Recorded) (hc : Calm Event.isSession s s') : s'.Recorded := by
  obtain ⟨new, hj, hnew⟩ := hc.journal
  rwa [Recorded, hj, Journal.session?_append hnew, hc.running]

lemma Leaves.running_eq_none {ended : Session} {n : Notice} (h : s.Leaves ended n) :
    ended.running = none := by
  cases h <;> rfl

lemma Leaves.isActive {ended : Session} {n : Notice} (h : s.Leaves ended n) : s.session.isActive := by
  cases h with
  | stopped active => exact active
  | expired expired => exact Session.isActive_of_isExpired expired
  | broken _ active => exact active

lemma Recorded.begun (h : s.Recorded) {running : RunningSession}
    (hr : s.session.running = some running) :
    ∃ session, s.journal.session? = some session ∧ session.running = some running := by
  rw [Recorded, hr, Option.map_some] at h
  exact Option.map_eq_some_iff.mp h

lemma Calm.offSession (h : Calm Event.isLoud s s') : Calm Event.isSession s s' :=
  h.mono fun _ => Event.isSession_of_not_isLoud

lemma recorded_setup (u : Setup γ σ) : u.scheduler.Recorded := rfl

variable [HealthGate γ] {w : World σ} {kind : MoveKind}

lemma Move.recorded (h : Move w kind s s') (hs : s.Recorded) : s'.Recorded := by
  by_cases hk : kind ∈ calmKinds
  · exact hs.calm (h.calm hk).offSession
  · cases h with
    | started s screen r =>
      obtain ⟨ns, ns', session, running, hstart, hr, -, -⟩ := startSession_eq s screen r
      rw [hstart]
      simp [Recorded, log, Journal.session?, hr]
    | left s ended n leaves =>
      obtain ⟨ns, rotation, hleave⟩ := leaveSession_marks s ended n
      rw [hleave]
      simp [Recorded, log, Journal.session?, leaves.running_eq_none]
    | rotated s =>
      rw [Recorded, advanceRotation_session, advanceRotation_journal]
      split <;> exact hs
    | setAside s provider => exact hs
    | opened s selection =>
      exact hs.calm (openShowing_calm w selection s (fun _ => Event.isSession_of_not_isLoud)
        fun _ _ => rfl)
    | drew s p forceClear =>
      exact hs.calm (draw_calm w p forceClear s (fun _ => Event.isSession_of_not_isLoud) fun _ => rfl)
    | _ => simp [calmKinds] at hk

end Marquee.Scheduler
