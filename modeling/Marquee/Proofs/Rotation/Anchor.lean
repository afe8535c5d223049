import Marquee.Proofs.Session.Record

namespace Marquee.Scheduler

variable {γ σ : Type} {s s₁ : Scheduler γ σ}

structure Anchored (s : Scheduler γ σ) : Prop where
  placed : s.rotation.Placed
  kept : ∀ index, s.session.resume? = some index →
    index = s.rotation.index ∧ index < s.rotation.screens.length

namespace Anchored

lemma calm {loud : Event → Bool} (h : s.Anchored) (hc : Calm loud s s₁) : s₁.Anchored := by
  refine ⟨?_, ?_⟩
  · rw [Rotation.Placed, hc.screens, hc.index]
    exact h.placed
  · rw [Session.resume?, hc.running, hc.screens, hc.index]
    exact h.kept

lemma skipProvider (h : s.Anchored) (provider : ProviderId) : (s.skipProvider provider).Anchored :=
  ⟨h.placed.skip provider, by simpa [Scheduler.skipProvider] using h.kept⟩

lemma advanceRotation (h : s.Anchored) (hr : s.session.running = none) :
    s.advanceRotation.Anchored :=
  ⟨h.placed.advance, by simp [Session.resume?, hr]⟩

lemma startSession (h : s.Anchored) (screen : Screen) (r : Request) :
    (s.startSession screen r).Anchored ∧ Unmoved Event.isScene s (s.startSession screen r) := by
  obtain ⟨ns, ns', session, running, hstart, hrunning, -, hresume⟩ := startSession_eq s screen r
  rw [hstart]
  refine ⟨⟨h.placed, ?_⟩, ?_⟩
  · intro index hi
    have hkept : s.resumeIndex? = some index := by
      simpa [Session.resume?, log, hrunning, hresume] using hi
    rw [resumeIndex?] at hkept
    split at hkept
    · exact h.kept index hkept
    · split at hkept
      · cases hkept
      next hne =>
        cases hkept
        exact ⟨rfl, h.placed (by simpa using hne)⟩
  · exact (((calm_note s ns).trans (calm_note _ ns')).toUnmoved.mono
      fun _ => Event.isScene_of_not_isLoud).trans ⟨rfl, [_], rfl, by simp [Event.isScene]⟩

lemma resumed_eq (h : s.Anchored) : s.resumed = s.rotation := by
  rw [resumed]
  cases hr : s.session.resume? with
  | none => rfl
  | some index =>
    obtain ⟨rfl, -⟩ := h.kept index hr
    rfl

lemma leaveSession (h : s.Anchored) {ended : Session} {n : Notice} (leaves : s.Leaves ended n) :
    (s.leaveSession ended n).Anchored ∧ Unmoved Event.isScene s (s.leaveSession ended n) := by
  rw [leaveSession_eq s ended n fun index hi => (h.kept index hi).2, h.resumed_eq]
  refine ⟨⟨h.placed, ?_⟩, ?_⟩
  · simp [Session.resume?, log, leaves.running_eq_none]
  · exact ((calm_note s [n]).toUnmoved.mono fun _ => Event.isScene_of_not_isLoud).trans
      ⟨rfl, [_], rfl, by simp [Event.isScene]⟩

end Anchored

lemma anchored_setup (u : Setup γ σ) : u.scheduler.Anchored :=
  ⟨fun hne => List.length_pos_iff.mpr hne, by simp [Session.resume?]⟩

def sceneKinds : List MoveKind :=
  [.rotated, .setAside, .opened, .drew]

variable [HealthGate γ] {w : World σ} {kind : MoveKind} {kinds : List MoveKind}

lemma Move.offScene (h : Move w kind s s₁) (hk : kind ∉ sceneKinds) (hs : s.Anchored) :
    s₁.Anchored ∧ Unmoved Event.isScene s s₁ := by
  by_cases hc : kind ∈ calmKinds
  · exact ⟨hs.calm (h.calm hc),
      (h.calm hc).toUnmoved.mono fun _ => Event.isScene_of_not_isLoud⟩
  · cases h with
    | started s screen r => exact hs.startSession screen r
    | left s ended n leaves => exact hs.leaveSession leaves
    | _ => simp [calmKinds, sceneKinds] at hc hk

lemma Move.unmoved (h : Move w kind s s₁) (hk : kind ≠ .rotated) (hk' : kind ≠ .setAside)
    (hs : s.Anchored) : s₁.Anchored ∧ Unmoved Event.isRotated s s₁ := by
  by_cases hc : kind ∈ sceneKinds
  · cases h with
    | opened s selection =>
      have calm := openShowing_calm w selection s (fun _ => Event.isRotated_of_not_isLoud)
        fun _ _ => rfl
      exact ⟨hs.calm calm, calm.toUnmoved⟩
    | drew s p forceClear =>
      have calm := draw_calm w p forceClear s (fun _ => Event.isRotated_of_not_isLoud) fun _ => rfl
      exact ⟨hs.calm calm, calm.toUnmoved⟩
    | rotated => exact absurd rfl hk
    | setAside => exact absurd rfl hk'
    | _ => simp [sceneKinds] at hc
  · have moved := h.offScene hc hs
    exact ⟨moved.1, moved.2.mono fun _ => Event.isRotated_of_not_isScene⟩

lemma Moves.anchored {loud : Event → Bool} (h : Moves w kinds s s₁) (hs : s.Anchored)
    (move : ∀ kind ∈ kinds, ∀ a b : Scheduler γ σ, Move w kind a b → a.Anchored →
      b.Anchored ∧ Unmoved loud a b) : s₁.Anchored ∧ Unmoved loud s s₁ := by
  refine h.preserve (R := fun a b => a.Anchored → b.Anchored ∧ Unmoved loud a b)
    (fun a ha => ⟨ha, .refl a⟩) ?_ move hs
  intro a b c hab hbc ha
  have hb := hab ha
  have hc := hbc hb.1
  exact ⟨hc.1, hb.2.trans hc.2⟩

lemma Moves.offScene (h : Moves w kinds s s₁) (hs : s.Anchored)
    (hk : ∀ kind ∈ kinds, kind ∉ sceneKinds) :
    s₁.Anchored ∧ Unmoved Event.isScene s s₁ :=
  h.anchored hs fun kind hm _ _ move => move.offScene (hk kind hm)

lemma Moves.unmoved (h : Moves w kinds s s₁) (hs : s.Anchored)
    (hk : .rotated ∉ kinds ∧ .setAside ∉ kinds) :
    s₁.Anchored ∧ Unmoved Event.isRotated s s₁ :=
  h.anchored hs fun _ hm _ _ move =>
    move.unmoved (fun he => hk.1 (he ▸ hm)) fun he => hk.2 (he ▸ hm)

end Marquee.Scheduler
