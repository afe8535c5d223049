import Marquee.Proofs.Scheduler.Kept
import Marquee.Proofs.Scheduler.Operation

namespace Marquee.Scheduler

variable {γ σ : Type} {s s' s'' : Scheduler γ σ}

structure Onward (s s' : Scheduler γ σ) : Prop where
  catalog : s'.catalog = s.catalog
  settings : s'.settings = s.settings
  deadline : s'.deadline = s.deadline
  clock : s.clock ≤ s'.clock
  journal : ∃ new, s'.journal = new ++ s.journal ∧
    ∀ e ∈ new, ∀ t, e.until? = some t → t ≤ s'.clock

namespace Onward

lemma refl (s : Scheduler γ σ) : Onward s s :=
  ⟨rfl, rfl, rfl, Nat.le_refl _, [], rfl, by simp⟩

lemma trans (h : Onward s s') (h' : Onward s' s'') : Onward s s'' := by
  obtain ⟨new, hj, hnew⟩ := h.journal
  obtain ⟨new', hj', hnew'⟩ := h'.journal
  refine ⟨h'.catalog.trans h.catalog, h'.settings.trans h.settings, h'.deadline.trans h.deadline,
    Nat.le_trans h.clock h'.clock, new' ++ new, by rw [hj', hj, List.append_assoc], ?_⟩
  intro e he t ht
  rcases List.mem_append.mp he with he | he
  · exact hnew' e he t ht
  · exact Nat.le_trans (hnew e he t ht) h'.clock

lemma mem {e : Event} (h : Onward s s') (he : e ∈ s.journal) : e ∈ s'.journal := by
  obtain ⟨new, hj, -⟩ := h.journal
  rw [hj]
  exact List.mem_append_right new he

lemma countP_le (h : Onward s s') (p : Event → Bool) :
    s.journal.countP p ≤ s'.journal.countP p := by
  obtain ⟨new, hj, -⟩ := h.journal
  rw [hj, List.countP_append]
  exact Nat.le_add_left _ _

end Onward

variable [HealthGate γ] {w : World σ} {kind : MoveKind} {kinds : List MoveKind}

lemma Move.clock_le (h : Move w kind s s') : s.clock ≤ s'.clock := by
  by_cases hk : kind ∈ timeKinds
  · cases h with
    | drew | slept | elapsed => exact Nat.le_add_right _ _
    | maintained s =>
      rw [maintain]
      split
      · exact Nat.le_refl _
      · exact Nat.le_add_right _ _
    | _ => simp [timeKinds] at hk
  · exact Nat.le_of_eq (h.kept.clock hk).symm

lemma Move.onward (h : Move w kind s s') (hk : kind ≠ .elapsed) : Onward s s' := by
  obtain ⟨new, hj, hnew⟩ := h.entries
  exact ⟨h.kept.catalog, h.kept.settings, h.kept.deadline (by simpa using hk), h.clock_le, new, hj,
    fun e he => (hnew e he).2⟩

lemma Moves.clock_eq (h : Moves w kinds s s')
    (hk : ∀ kind ∈ kinds, kind ∉ timeKinds) : s'.clock = s.clock :=
  h.preserve (R := fun a b => b.clock = a.clock) (fun _ => rfl) (fun _ _ _ hab hbc => hbc.trans hab)
    fun kind hm _ _ move => move.kept.clock (hk kind hm)

lemma Moves.onward (h : Moves w kinds s s') (hk : .elapsed ∉ kinds) : Onward s s' :=
  h.preserve .refl (fun _ _ _ => .trans) fun _ hm _ _ move => move.onward fun he => hk (he ▸ hm)

end Marquee.Scheduler
