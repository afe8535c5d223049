import Marquee.Proofs.Journal
import Marquee.Proofs.Rotation.Advance
import Marquee.Proofs.Scheduler.Polling

namespace Marquee.Scheduler

variable {γ σ : Type} {w : World σ} {loud : Event → Bool} {s s' s'' : Scheduler γ σ}

structure Unmoved (loud : Event → Bool) (s s' : Scheduler γ σ) : Prop where
  place : s'.rotation.place = s.rotation.place
  journal : ∃ new, s'.journal = new ++ s.journal ∧ ∀ e ∈ new, loud e = false

structure Calm (loud : Event → Bool) (s s' : Scheduler γ σ) : Prop extends Unmoved loud s s' where
  catalog : s'.catalog = s.catalog
  running : s'.session.running = s.session.running

namespace Unmoved

lemma refl (s : Scheduler γ σ) : Unmoved loud s s :=
  ⟨rfl, [], rfl, by simp⟩

lemma trans (h : Unmoved loud s s') (h' : Unmoved loud s' s'') : Unmoved loud s s'' := by
  obtain ⟨new, hj, hnew⟩ := h.journal
  obtain ⟨new', hj', hnew'⟩ := h'.journal
  refine ⟨h'.place.trans h.place, new' ++ new, by rw [hj', hj, List.append_assoc], ?_⟩
  intro e he
  rcases List.mem_append.mp he with he | he
  · exact hnew' e he
  · exact hnew e he

lemma mono {quieter : Event → Bool} (h : Unmoved loud s s')
    (hl : ∀ e, loud e = false → quieter e = false) : Unmoved quieter s s' := by
  obtain ⟨new, hj, hnew⟩ := h.journal
  exact ⟨h.place, new, hj, fun e he => hl e (hnew e he)⟩

lemma screens (h : Unmoved loud s s') : s'.rotation.screens = s.rotation.screens := by
  have hp := congrArg Rotation.screens h.place
  exact hp

lemma index (h : Unmoved loud s s') : s'.rotation.index = s.rotation.index := by
  have hp := congrArg Rotation.index h.place
  exact hp

lemma current? (h : Unmoved loud s s') : s'.rotation.current? = s.rotation.current? := by
  have hp := congrArg Rotation.current? h.place
  exact hp

lemma advances (h : Unmoved loud s s') : s'.rotation.advances = s.rotation.advances := by
  have hp := congrArg Rotation.advances h.place
  exact hp

lemma always {Q : Event → Journal → Prop} (h : Unmoved loud s s')
    (hQ : ∀ e j, loud e = false → Q e j) (hs : s.journal.Always Q) : s'.journal.Always Q := by
  obtain ⟨new, hj, hnew⟩ := h.journal
  rw [hj]
  exact hs.append fun e he j => hQ e j (hnew e he)

lemma of_log (s : Scheduler γ σ) {e : Event} (he : loud e = false) : Unmoved loud s (s.log e) :=
  ⟨rfl, [e], rfl, by simpa using he⟩

end Unmoved

namespace Calm

lemma refl (s : Scheduler γ σ) : Calm loud s s :=
  ⟨.refl s, rfl, rfl⟩

lemma trans (h : Calm loud s s') (h' : Calm loud s' s'') : Calm loud s s'' :=
  ⟨h.toUnmoved.trans h'.toUnmoved, h'.catalog.trans h.catalog, h'.running.trans h.running⟩

lemma mono {quieter : Event → Bool} (h : Calm loud s s')
    (hl : ∀ e, loud e = false → quieter e = false) : Calm quieter s s' :=
  ⟨h.toUnmoved.mono hl, h.catalog, h.running⟩

end Calm

def calmKinds : List MoveKind :=
  [.noted, .inquired, .received, .took, .refused, .published, .succeeded, .failed, .counted, .looked,
    .turned, .acknowledged, .relaxed, .blanked, .maintained, .slept, .closed, .elapsed]

lemma calm_note (s : Scheduler γ σ) (ns : List Notice) : Calm Event.isLoud s (s.note ns) :=
  ⟨⟨rfl, _, rfl, by simp [Event.isLoud]⟩, rfl, rfl⟩

lemma calm_log (s : Scheduler γ σ) {e : Event} (he : loud e = false) : Calm loud s (s.log e) :=
  ⟨.of_log s he, rfl, rfl⟩

variable [HealthGate γ]

lemma Move.calm {kind : MoveKind} (h : Move w kind s s') (hk : kind ∈ calmKinds) :
    Calm Event.isLoud s s' := by
  cases h with
  | noted s ns => exact calm_note s ns
  | inquired s e he => exact calm_log s (by cases e <;> simp_all [Event.isInquiry, Event.isLoud])
  | received s => exact ⟨⟨rfl, [], rfl, by simp⟩, rfl, rfl⟩
  | emptied s =>
    rw [takeRequest]
    split <;> exact ⟨⟨rfl, [], rfl, by simp⟩, rfl, rfl⟩
  | took s r => exact calm_log s rfl
  | refused s r refusal => exact ⟨⟨rfl, [_], rfl, by simp [Event.isLoud]⟩, rfl, rfl⟩
  | published s =>
    rw [publish]
    split
    · exact .refl s
    · exact ⟨⟨rfl, [_], rfl, by simp [Event.isLoud]⟩, rfl, rfl⟩
  | succeeded s provider =>
    exact (calm_note s _).trans ⟨⟨rfl, [_], rfl, by simp [Event.isLoud]⟩, rfl, rfl⟩
  | failed s provider error =>
    exact (calm_note s _).trans ⟨⟨rfl, [_], rfl, by simp [Event.isLoud]⟩, rfl, rfl⟩
  | counted s c => exact ⟨⟨rfl, [], rfl, by simp⟩, rfl, rfl⟩
  | looked s => exact ⟨⟨rfl, [], rfl, by simp⟩, rfl, rfl⟩
  | turned s phase => exact ⟨⟨rfl, [], rfl, by simp⟩, rfl, rfl⟩
  | acknowledged s => exact ⟨⟨rfl, [], rfl, by simp⟩, rfl, rfl⟩
  | relaxed s => exact ⟨⟨rfl, [], rfl, by simp⟩, rfl, rfl⟩
  | blanked s => exact ⟨⟨rfl, [], rfl, by simp⟩, rfl, rfl⟩
  | maintained s =>
    rw [maintain]
    split
    · exact .refl s
    · exact ⟨⟨rfl, [_], rfl, by simp [Event.isLoud]⟩, rfl, rfl⟩
  | slept s nap => exact ⟨⟨rfl, [_], rfl, by simp [Event.isLoud]⟩, rfl, rfl⟩
  | closed s ending => exact calm_log s rfl
  | elapsed s => exact ⟨⟨rfl, [], rfl, by simp⟩, rfl, rfl⟩
  | _ => simp [calmKinds] at hk

lemma Moves.calm {kinds : List MoveKind} (h : Moves w kinds s s')
    (hk : kinds ⊆ calmKinds) : Calm Event.isLoud s s' :=
  h.preserve .refl (fun _ _ _ => .trans) fun _ hm _ _ move => move.calm (hk hm)

end Marquee.Scheduler
