import Marquee.Proofs.Script
import Marquee.Proofs.Session.Record

/-! At the end of a session rotation is back where it was interrupted, however often the session was
replaced and however far rotation was moved on in the meantime. -/

namespace Marquee

/-- At the end of a session rotation stands where the chain of sessions began. That place was in range,
so nothing was reported about it. -/
def Event.Resumes (e : Event) (before : Journal) : Prop :=
  match e with
  | .sessionOver _ rotation _ => before.Chain rotation.index ∧
      rotation.index < rotation.screens.length ∧
      ∀ index count current, before.head? ≠ some (.notice (.resumeOutOfRange index count current))
  | _ => True

lemma Event.resumes_of_not_isOver {e : Event} (h : e.isOver = false) (before : Journal) :
    e.Resumes before := by
  cases e <;> simp_all [Event.isOver, Event.Resumes]

namespace Scheduler

variable {γ σ : Type} {s s' : Scheduler γ σ}

structure Resumable (s : Scheduler γ σ) : Prop where
  screens : s.rotation.screens = s.catalog.screens
  placed : s.rotation.Placed
  recorded : s.Recorded
  kept : ∀ running, s.session.running = some running → ∃ index, running.resume = some index ∧
    s.journal.Chain index ∧ index < s.rotation.screens.length
  resumes : s.journal.Always Event.Resumes

lemma Resumable.calm (h : s.Resumable) (hc : Calm Event.isSession s s') : s'.Resumable := by
  obtain ⟨new, hj, hnew⟩ := hc.journal
  refine ⟨?_, ?_, h.recorded.calm hc, ?_, ?_⟩
  · rw [hc.screens, hc.catalog, h.screens]
  · rw [Rotation.Placed, hc.screens, hc.index]
    exact h.placed
  · intro running hr
    obtain ⟨index, hkept, hchain, hlt⟩ := h.kept running (hc.running ▸ hr)
    exact ⟨index, hkept, hj ▸ hchain.append hnew, hc.screens ▸ hlt⟩
  · exact hc.always
      (fun e j he => Event.resumes_of_not_isOver (Event.isOver_of_not_isSession he) j) h.resumes

lemma Resumable.index_lt (h : s.Resumable) {index : Nat} (hr : s.session.resume? = some index) :
    index < s.rotation.screens.length := by
  cases hrun : s.session.running with
  | none => simp [Session.resume?, hrun] at hr
  | some running =>
    obtain ⟨index', hkept, -, hlt⟩ := h.kept running hrun
    simp only [Session.resume?, hrun, Option.bind_some, hkept, Option.some.injEq] at hr
    exact hr ▸ hlt

lemma Resumable.startSession (h : s.Resumable) {screen : Screen} {r : Request}
    (ok : resolveRequest s.catalog r = .ok screen) : (s.startSession screen r).Resumable := by
  have hne : s.rotation.screens ≠ [] := by
    rw [h.screens]
    exact List.ne_nil_of_mem (resolveRequest_mem ok)
  have hempty : s.rotation.screens.isEmpty = false := by simpa using hne
  obtain ⟨ns, ns', session, running, hstart, hrunning, -, hresume⟩ := startSession_eq s screen r
  have hnoted : ∀ e ∈ (ns'.map Event.notice).reverse ++ (ns.map Event.notice).reverse,
      e.isSession = false := by
    simp [or_imp, forall_and, Event.isSession]
  have hjournal : ((s.note ns).note ns').journal =
      (ns'.map Event.notice).reverse ++ (ns.map Event.notice).reverse ++ s.journal := by
    simp [note]
  rw [hstart]
  refine ⟨h.screens, h.placed, ?_, ?_, ⟨trivial, ?_⟩⟩
  · simp [Recorded, log, Journal.session?, hrunning]
  · intro running' hr'
    obtain rfl : running = running' := Option.some.inj (hrunning.symm.trans hr')
    rw [hresume, resumeIndex?]
    cases hr : s.session.running with
    | none =>
      refine ⟨s.rotation.index, by simp [Session.isActive, hr, hempty], .first ?_, h.placed hne⟩
      have hnone := h.recorded
      rw [Recorded, hr, Option.map_none, Option.map_eq_none_iff] at hnone
      rw [hjournal, Journal.session?_append hnoted, hnone]
    | some old =>
      obtain ⟨index, hkept, hchain, hlt⟩ := h.kept old hr
      refine ⟨index, by simp [Session.isActive, Session.resume?, hr, hkept], .later ?_ rfl, hlt⟩
      rw [hjournal]
      exact hchain.append hnoted
  · rw [hjournal]
    refine h.resumes.append fun e he j => ?_
    exact Event.resumes_of_not_isOver (Event.isOver_of_not_isSession (hnoted e he)) j

lemma Resumable.leaveSession (h : s.Resumable) {ended : Session} {n : Notice}
    (leaves : s.Leaves ended n) : (s.leaveSession ended n).Resumable := by
  obtain ⟨running, hr⟩ := Option.isSome_iff_exists.mp leaves.isActive
  obtain ⟨index, hkept, hchain, hlt⟩ := h.kept running hr
  have hresume : s.session.resume? = some index := by simp [Session.resume?, hr, hkept]
  have hresumed : s.resumed = { s.rotation with index } := by simp [resumed, hresume]
  rw [leaveSession_eq s ended n fun _ => h.index_lt, hresumed]
  refine ⟨h.screens, fun _ => hlt, ?_, ?_, ⟨⟨?_, hlt, ?_⟩, ?_⟩⟩
  · simp [Recorded, log, Journal.session?, leaves.running_eq_none]
  · intro running' hr'
    have hnone : ended.running = some running' := hr'
    simp [leaves.running_eq_none] at hnone
  · exact hchain.later rfl
  · cases leaves <;> simp [note]
  · exact ⟨trivial, h.resumes⟩

lemma Resumable.advanceRotation (h : s.Resumable) : s.advanceRotation.Resumable := by
  have hnew : ∃ new, s.advanceRotation.journal = new ++ s.journal ∧
      ∀ e ∈ new, e.isSession = false := by
    rw [advanceRotation_journal]
    split
    · exact ⟨[], rfl, by simp⟩
    · exact ⟨[_], rfl, by simp [Event.isSession]⟩
  obtain ⟨new, hj, hnew⟩ := hnew
  refine ⟨?_, h.placed.advance, ?_, ?_, ?_⟩
  · rw [advanceRotation_rotation, Rotation.screens_advance, advanceRotation_catalog, h.screens]
  · rw [Recorded, hj, Journal.session?_append hnew, advanceRotation_session]
    exact h.recorded
  · intro running hr
    obtain ⟨index, hkept, hchain, hlt⟩ := h.kept running (by simpa using hr)
    exact ⟨index, hkept, hj ▸ hchain.append hnew, by simpa using hlt⟩
  · rw [hj]
    refine h.resumes.append fun e he j => ?_
    exact Event.resumes_of_not_isOver (Event.isOver_of_not_isSession (hnew e he)) j

lemma Resumable.skipProvider (h : s.Resumable) (provider : ProviderId) :
    (s.skipProvider provider).Resumable :=
  ⟨(Rotation.screens_skip _ _).trans h.screens, h.placed.skip provider, h.recorded,
    by simpa [Scheduler.skipProvider] using h.kept, h.resumes⟩

lemma resumable_setup (u : Setup γ σ) : u.scheduler.Resumable :=
  ⟨rfl, fun hne => List.length_pos_iff.mpr hne, rfl, by simp, trivial⟩

variable [HealthGate γ] {w : World σ} {kind : MoveKind}

lemma Move.resumable (h : Move w kind s s') (hs : s.Resumable) : s'.Resumable := by
  by_cases hk : kind ∈ calmKinds
  · exact hs.calm (h.calm hk).offSession
  · cases h with
    | started s screen r ok => exact hs.startSession ok
    | left s ended n leaves => exact hs.leaveSession leaves
    | rotated s => exact hs.advanceRotation
    | setAside s provider => exact hs.skipProvider provider
    | opened s selection =>
      exact hs.calm (openShowing_calm w selection s (fun _ => Event.isSession_of_not_isLoud)
        fun _ _ => rfl)
    | drew s p forceClear =>
      exact hs.calm (draw_calm w p forceClear s (fun _ => Event.isSession_of_not_isLoud) fun _ => rfl)
    | _ => simp [calmKinds] at hk

lemma performAll_resumable (u : Setup γ σ) (w : World σ) (ops : List (Operation σ)) :
    (u.scheduler.performAll w ops).Resumable :=
  performAll_of_moves (fun _ _ _ move => move.resumable) (resumable_setup u) ops

/-- At the end of a session, be it stopped, expired or broken off, rotation stands where the first
session of its chain found it. The place that a session keeps can always be gone back to. -/
theorem session_end_returns_rotation (u : Setup γ σ) (w : World σ) (ops : List (Operation σ)) :
    let s := u.scheduler.performAll w ops
    s.session.isActive = s.journal.session?.isSome ∧
    (∀ (later before : Journal) ended rotation t,
      s.journal = later ++ .sessionOver ended rotation t :: before →
        (∀ index, before.Chain index ↔ index = rotation.index) ∧
        rotation.index < rotation.screens.length ∧
        ∀ index count current,
          before.head? ≠ some (.notice (.resumeOutOfRange index count current))) ∧
    ∀ running, s.session.running = some running → ∃ index, running.resume = some index ∧
      s.journal.Chain index ∧ s.rotation.restore index = pure (true, { s.rotation with index }) := by
  intro s
  have h : s.Resumable := performAll_resumable u w ops
  refine ⟨h.recorded.isActive, ?_, ?_⟩
  · intro later before ended rotation t hj
    have hresumes := h.resumes
    rw [hj] at hresumes
    obtain ⟨hchain, hlt, hhead⟩ := hresumes.of_split
    exact ⟨fun index => ⟨fun hc => hc.unique hchain, fun hi => hi ▸ hchain⟩, hlt, hhead⟩
  · intro running hr
    obtain ⟨index, hkept, hchain, hlt⟩ := h.kept running hr
    exact ⟨index, hkept, hchain, if_pos hlt⟩

def replacedSession : Script :=
  { polls := [[.startMode "1" "clock"], [.startMode "2" "scores_live"], [.stop "3"]] }

theorem replaced_session_returns_rotation :
    (∃ (later before : Journal) (rotation : Rotation),
      (replacedSession.play [.advance, .poll, .advance, .poll, .advance, .poll]).journal =
        later ++ .sessionOver (Session.finish {} "stopped") rotation 0 :: before ∧
      rotation.index = 1 ∧ before.Chain 1) ∧
    (replacedSession.play [.advance, .poll, .advance, .poll]).journal.Chain 1 := by
  constructor
  · have h := (session_end_returns_rotation replacedSession.setup Script.world
      [.advance, .poll, .advance, .poll, .advance, .poll]).2.1 [_] _ _ _ _ rfl
    exact ⟨[_], _, _, rfl, by rfl, (h.1 1).mpr rfl⟩
  · obtain ⟨index, kept, hchain, -⟩ :=
      (session_end_returns_rotation replacedSession.setup Script.world
        [.advance, .poll, .advance, .poll]).2.2 _ rfl
    obtain rfl : 1 = index := Option.some.inj kept
    exact hchain

end Scheduler

end Marquee
