import Marquee.Proofs.Rotation.Shunning
import Marquee.Proofs.Scheduler.Still
import Marquee.Proofs.Session.Resume

namespace Marquee

lemma countP_lt_countP {α : Type} {p q : α → Bool} {a : α} {l : List α} (h : ∀ b, p b → q b)
    (mem : a ∈ l) (hp : p a = false) (hq : q a) : l.countP p < l.countP q := by
  obtain ⟨before, after, rfl⟩ := List.append_of_mem mem
  have hb := List.countP_mono_left (l := before) fun b _ => h b
  have ha := List.countP_mono_left (l := after) fun b _ => h b
  rw [List.countP_append, List.countP_append, List.countP_cons_of_neg (by simp [hp]),
    List.countP_cons_of_pos hq]
  omega

namespace Catalog

variable {c : Catalog} {r r' : Rotation} {provider : ProviderId}

def size (c : Catalog) : Nat :=
  c.screens.length + c.providers.length

def left (c : Catalog) (r : Rotation) : Nat :=
  (c.screens.length - r.index) + c.providers.countP fun provider => !r.isSkipped provider

lemma left_le (c : Catalog) (r : Rotation) : c.left r ≤ c.size :=
  Nat.add_le_add (Nat.sub_le _ _) List.countP_le_length

lemma left_pos (h : r.index < c.screens.length) : 0 < c.left r :=
  Nat.add_pos_left (Nat.sub_pos_of_lt h) _

lemma left_of_place (h : r'.place = r.place) : c.left r' = c.left r := by
  have left := congrArg c.left h
  exact left

lemma not_isSkipped_of_skip {other : ProviderId} (h : !(r.skip provider).isSkipped other) :
    !r.isSkipped other := by
  cases hs : r.isSkipped other with
  | false => rfl
  | true => simp [Rotation.isSkipped_skip_iff.mpr (.inl hs)] at h

lemma left_skip_le (c : Catalog) (r : Rotation) (provider : ProviderId) :
    c.left (r.skip provider) ≤ c.left r := by
  rw [left, left, Rotation.index_skip]
  exact Nat.add_le_add_left (List.countP_mono_left fun _ _ => not_isSkipped_of_skip) _

lemma left_skip_lt (registered : c.hasProvider provider) (kept : r.isSkipped provider = false) :
    c.left (r.skip provider) < c.left r := by
  rw [left, left, Rotation.index_skip]
  refine Nat.add_lt_add_left (countP_lt_countP (fun _ => not_isSkipped_of_skip)
    (List.contains_iff_mem.mp registered) ?_ ?_) _
  · simp [Rotation.isSkipped_skip_iff.mpr (.inr rfl)]
  · simp [kept]

lemma left_advance (h : r.index < r.screens.length) (hs : r.screens = c.screens) :
    r.advance.passes = r.passes ∧ c.left r.advance < c.left r ∨
      r.advance.passes ≠ r.passes := by
  rcases Rotation.advance_spec h with ⟨index, later, -, -, hadv⟩ | ⟨-, hadv⟩
  · rw [hs] at h
    rw [hadv]
    refine .inl ⟨rfl, Nat.add_lt_add_right ?_ _⟩
    exact Nat.sub_lt_sub_left h later
  · rw [hadv]
    exact .inr (Nat.succ_ne_self _)

end Catalog

namespace Scheduler

variable {γ σ : Type} {s s' : Scheduler γ σ} {selection : Selection}

/-- A bound on the ticks that can follow before the clock moves. The pass under way ends without sleep
if it has shown something, and then there is one more. -/
def slack (s : Scheduler γ σ) : Nat :=
  if s.session.isActive then 2 * s.catalog.size + 1
  else (if s.shownThisPass then s.catalog.size else 0) + s.catalog.left s.rotation

lemma slack_of_not_isActive (h : s.session.isActive = false) :
    s.slack = (if s.shownThisPass then s.catalog.size else 0) + s.catalog.left s.rotation := by
  simp [slack, h]

lemma slack_lt_of_not_isActive (h : s.session.isActive = false) :
    s.slack < 2 * s.catalog.size + 1 := by
  have left := s.catalog.left_le s.rotation
  rw [slack_of_not_isActive h]
  split <;> omega

lemma slack_le (s : Scheduler γ σ) : s.slack ≤ 2 * s.catalog.size + 1 := by
  cases h : s.session.isActive with
  | true => simp [slack, h]
  | false => exact Nat.le_of_lt (slack_lt_of_not_isActive h)

lemma RunOut.slack_lt (h : RunOut s s') (hc : s'.catalog = s.catalog) : s'.slack < s.slack := by
  have before : s.slack = 2 * s.catalog.size + 1 := if_pos h.1
  rw [before, ← hc]
  exact slack_lt_of_not_isActive h.2

lemma Steady.slack_eq (h : Steady s s') : s'.slack = s.slack := by
  rw [slack, slack, h.session, h.catalog, h.shownThisPass, Catalog.left_of_place h.place]

structure Ready (selection : Selection) (s : Scheduler γ σ) : Prop where
  entitled : s.Entitled selection
  screens : s.rotation.screens = s.catalog.screens
  index : s.rotation.index < s.rotation.screens.length
  live : selection.source = .live → s.catalog.hasProvider selection.screen.provider ∧
    s.rotation.isSkipped selection.screen.provider = false

lemma Ready.steady (h : Ready selection s) (hs : Steady s s') : Ready selection s' := by
  have skipped := congrArg (Rotation.isSkipped · selection.screen.provider) hs.place
  refine ⟨?_, ?_, ?_, ?_⟩
  · rw [Entitled, hs.session]
    exact h.entitled
  · rw [hs.screens, hs.catalog, h.screens]
  · rw [hs.screens, hs.index]
    exact h.index
  · rw [hs.catalog]
    exact fun live => ⟨(h.live live).1, skipped.trans (h.live live).2⟩

lemma Ready.isActive_eq (h : Ready selection s) (hs : selection.source ≠ .onDemand) :
    s.session.isActive = false := by
  rw [Session.isActive, h.entitled.running_eq_none hs]
  rfl

lemma advanceRotation_pass (s : Scheduler γ σ) :
    s.advanceRotation.idlePass = (if s.rotation.advance.passes ≠ s.rotation.passes then
        !s.shownThisPass else s.idlePass) ∧
      s.advanceRotation.shownThisPass = (if s.rotation.advance.passes ≠ s.rotation.passes then
        false else s.shownThisPass) := by
  unfold advanceRotation
  dsimp only
  by_cases same : s.rotation.advance.passes = s.rotation.passes <;> split <;> simp [log, same]

lemma advanceRotation_slack (index : s.rotation.index < s.rotation.screens.length)
    (screens : s.rotation.screens = s.catalog.screens) (inactive : s.session.isActive = false) :
    s.advanceRotation.idlePass ∨ s.advanceRotation.slack < s.slack := by
  obtain ⟨idle, shown⟩ := advanceRotation_pass s
  have after : s.advanceRotation.session.isActive = false := by
    rw [advanceRotation_session]
    exact inactive
  rw [slack_of_not_isActive inactive, slack_of_not_isActive after, advanceRotation_catalog,
    advanceRotation_rotation, idle, shown]
  rcases Catalog.left_advance index screens with ⟨same, less⟩ | ended
  · right
    simpa [same] using less
  · -- A new pass has all of the catalog before it, which is paid for by what the last one has shown.
    have left := s.catalog.left_le s.rotation.advance
    have some := Catalog.left_pos (screens ▸ index)
    cases s.shownThisPass with
    | false => simp [ended]
    | true =>
      have used : s.catalog.left s.rotation.advance <
          s.catalog.size + s.catalog.left s.rotation := by omega
      right
      simpa [ended] using used

lemma slack_pos (hr : s.Resumable) (h : s.catalog.screens ≠ []) : 0 < s.slack := by
  rw [slack]
  split
  · exact Nat.succ_pos _
  · rw [← hr.screens] at h
    have left := Catalog.left_pos (hr.screens ▸ hr.placed h)
    exact Nat.add_pos_right _ left

lemma passOver_slack (provider : ProviderId)
    (index : s.rotation.index < s.rotation.screens.length)
    (screens : s.rotation.screens = s.catalog.screens) (inactive : s.session.isActive = false) :
    (s.skipProvider provider).advanceRotation.idlePass ∨
      (s.skipProvider provider).advanceRotation.slack < s.slack := by
  have skipped : (s.skipProvider provider).slack ≤ s.slack := by
    rw [slack_of_not_isActive inactive, slack_of_not_isActive (s := s.skipProvider provider) inactive]
    exact Nat.add_le_add_left (Catalog.left_skip_le s.catalog s.rotation provider) _
  refine (advanceRotation_slack (s := s.skipProvider provider) ?_ ?_ inactive).imp_right
    fun less => Nat.lt_of_lt_of_le less skipped
  · simpa [skipProvider] using index
  · exact (Rotation.screens_skip _ _).trans screens

lemma skipProvider_slack {provider : ProviderId} (inactive : s.session.isActive = false)
    (registered : s.catalog.hasProvider provider)
    (kept : s.rotation.isSkipped provider = false) : (s.skipProvider provider).slack < s.slack := by
  rw [slack_of_not_isActive inactive, slack_of_not_isActive (s := s.skipProvider provider) inactive]
  exact Nat.add_lt_add_left (Catalog.left_skip_lt registered kept) _

lemma failSession_slack (h : s.session.isActive) (error : ProviderError) :
    (s.failSession error).slack < s.slack := by
  obtain ⟨ns, rotation, left⟩ :=
    leaveSession_marks s (s.session.breakOff (.displayFailed error.message)) (.sessionBroken error)
  have failed : RunOut s (s.failSession error) := by
    refine ⟨h, ?_⟩
    rw [failSession, publish_session, left]
    rfl
  refine failed.slack_lt ?_
  rw [failSession, publish_catalog, left]
  rfl

lemma paceAfterPass_still (hs : s.Paced) (h : Still s s.paceAfterPass) :
    s.idlePass = false ∧ s.paceAfterPass = s := by
  have idle : s.idlePass = false := by
    refine Bool.eq_false_iff.mpr fun idle => ?_
    rw [paceAfterPass, if_pos idle] at h
    have relaxed : ({ s with idlePass := false } : Scheduler γ σ).Paced :=
      ⟨hs.normal, hs.highRate, hs.liveCheck, hs.deadline⟩
    exact absurd h.clock (Nat.ne_of_gt relaxed.idleSleep_lt)
  exact ⟨idle, by simp [paceAfterPass, idle]⟩

variable [HealthGate γ]

lemma afterFailure_slack (w : World σ) (ready : Ready selection s) (error : ProviderError)
    (busy : (s.afterFailure selection error).idlePass = false) :
    (s.afterFailure selection error).slack < s.slack := by
  have blamed := (blamed_moves w selection error s).steady (by decide)
  have ready := ready.steady blamed
  rw [afterFailure_eq] at busy ⊢
  rw [← blamed.slack_eq]
  cases hs : selection.source with
  | onDemand => exact failSession_slack (ready.entitled.isActive hs) error
  | live =>
    obtain ⟨registered, kept⟩ := ready.live hs
    exact skipProvider_slack (ready.isActive_eq (by simp [hs])) registered kept
  | rotation index =>
    rw [hs] at busy
    have passed := passOver_slack selection.screen.provider ready.index ready.screens
      (ready.isActive_eq (by simp [hs]))
    exact passed.resolve_left (Bool.eq_false_iff.mp busy)

end Scheduler

end Marquee
