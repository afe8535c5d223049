import Marquee.Proofs.Scheduler.Clock
import Marquee.Proofs.Script
import Marquee.Scheduler.Run

/-! A run for a span of time is over when the span is. Every nap on the way is bounded by the deadline,
and nothing but naps moves the clock of an instantaneous world. -/

namespace Marquee

structure World.Instantaneous {σ : Type} (w : World σ) : Prop where
  draw : ∀ outside now screen forceClear, (w.draw outside now screen forceClear).cost = 0
  maintenance : ∀ work, w.maintenance = some work → ∀ outside now, (work outside now).1 = 0

namespace Scheduler

variable {γ σ : Type} {s s' : Scheduler γ σ} {d : Instant}

structure Timely (d : Instant) (s : Scheduler γ σ) : Prop where
  deadline : s.deadline = some d
  clock : s.clock ≤ d

lemma Timely.nap (h : s.Timely d) (nap : Span) : s.clock + s.bounded nap ≤ d := by
  have hnap : s.bounded nap ≤ d - s.clock := by
    rw [bounded, h.deadline]
    exact Nat.min_le_right _ _
  exact Nat.add_le_of_le_sub' h.clock hnap

variable {w : World σ} {kind : MoveKind}

lemma Timely.clock_eq (h : s.Timely d) (stop : s.shouldStop w)
    (unasked : w.stopRequested s.outside s.clock = false) : s.clock = d := by
  have past : d ≤ s.clock := by simpa [shouldStop, h.deadline, unasked] using stop
  exact Nat.le_antisymm h.clock past

lemma draw_clock (hw : w.Instantaneous) (p : Showing) (forceClear : Bool) (s : Scheduler γ σ) :
    (s.draw w p forceClear).2.clock = s.clock := by
  unfold draw log
  dsimp only
  split
  · rw [hw.draw, Nat.add_zero]
  · rfl

lemma maintain_clock (hw : w.Instantaneous) (s : Scheduler γ σ) :
    (s.maintain w).clock = s.clock := by
  rw [maintain]
  split
  · rfl
  next work some =>
    dsimp only [log]
    rw [hw.maintenance work some, Nat.add_zero]

variable [HealthGate γ]

lemma Move.timely (hw : w.Instantaneous) (h : Move w kind s s') (hk : kind ≠ .elapsed)
    (hs : s.Timely d) : s'.Timely d := by
  refine ⟨(h.onward hk).deadline.trans hs.deadline, ?_⟩
  by_cases ht : kind ∈ timeKinds
  · cases h with
    | drew s p forceClear =>
      rw [draw_clock hw]
      exact hs.clock
    | maintained s =>
      rw [maintain_clock hw]
      exact hs.clock
    | slept s nap => exact hs.nap nap
    | elapsed => exact absurd rfl hk
    | _ => simp [timeKinds] at ht
  · rw [h.kept.clock ht]
    exact hs.clock

lemma ticks_moves (w : World σ) (n : Nat) (s : Scheduler γ σ) :
    Moves w tickKinds s (ticks w n s).2 := by
  induction n generalizing s with
  | zero => exact .refl s
  | succ n ih =>
    rw [ticks]
    split
    · exact .refl s
    · exact (tick_moves w s).trans (ih (s.tick w).2)

lemma ticks_stopped {n : Nat} (h : (ticks w n s).1 = .stopped) : (ticks w n s).2.shouldStop w := by
  induction n generalizing s with
  | zero =>
    rw [ticks] at h ⊢
    dsimp only at h ⊢
    split at h
    next stop => exact stop
    next => cases h
  | succ n ih =>
    rw [ticks] at h ⊢
    split at h
    next stop =>
      rw [if_pos stop]
      exact stop
    next going =>
      rw [if_neg going]
      exact ih h

lemma ticks_timely (hw : w.Instantaneous) (n : Nat) (hs : s.Timely d) :
    (ticks w n s).2.Timely d := by
  have hk : MoveKind.elapsed ∉ tickKinds := by decide
  exact (ticks_moves w n s).keep
    (fun _ hm _ _ move => move.timely hw fun he => hk (he ▸ hm)) hs

/-- Whatever the providers answer and whoever sends commands: a run for a span never goes past its end,
and unless a stop was asked for it returns exactly then. -/
theorem runFor_ends_on_time (w : World σ) (hw : w.Instantaneous) (s : Scheduler γ σ) (span : Span) :
    let run := s.runFor w span
    (∃ new, run.2.journal = new ++ s.journal ∧
      ∀ e ∈ new, ∀ t, e.until? = some t → t ≤ s.clock + span) ∧
    s.clock ≤ run.2.clock ∧ run.2.clock ≤ s.clock + span ∧
    (run.1 = .stopped → w.stopRequested run.2.outside run.2.clock = false →
      run.2.clock = s.clock + span) := by
  intro run
  by_cases hadd : s.clock + span < Instant.limit
  · let d := s.clock + span
    let done := ticks w w.patience { s with deadline := some d }
    have hrun : run = (done.1, { done.2 with deadline := none }.note [.ran span done.2.counters]) := by
      change s.runFor w span = _
      rw [runFor, Instant.add?, if_pos hadd]
    have timely : done.2.Timely d :=
      ticks_timely (s := { s with deadline := some d }) hw w.patience ⟨rfl, Nat.le_add_right _ _⟩
    have onward := (ticks_moves w w.patience { s with deadline := some d }).onward (by decide)
    obtain ⟨new, hj, hnew⟩ := onward.journal
    rw [hrun]
    refine ⟨⟨.notice (.ran span done.2.counters) :: new, ?_, ?_⟩, onward.clock, timely.clock, ?_⟩
    · exact congrArg (Event.notice (.ran span done.2.counters) :: ·) hj
    · intro e he t ht
      rcases List.mem_cons.mp he with rfl | he
      · cases ht
      · exact Nat.le_trans (hnew e he t ht) timely.clock
    · intro stopped unasked
      exact timely.clock_eq (ticks_stopped stopped) unasked
  · have hrun : run = (.deadlineOutOfRange, s) := by
      change s.runFor w span = _
      rw [runFor, Instant.add?, if_neg hadd]
    rw [hrun]
    refine ⟨⟨[], rfl, by simp⟩, Nat.le_refl _, Nat.le_add_right _ _, ?_⟩
    intro stopped
    cases stopped

def visitedRun : Script :=
  { polls := [[], [], [.startMode "1" "clock"]] }

def patientWorld : World Script :=
  { Script.world with patience := 10 }

theorem visited_run_ends_on_time :
    let run := visitedRun.setup.scheduler.runFor patientWorld 2500000000
    run.1 = .stopped ∧ run.2.clock = 2500000000 := by
  have instantaneous : patientWorld.Instantaneous :=
    ⟨fun _ _ _ _ => rfl, fun _ h => by cases h⟩
  have stopped : (visitedRun.setup.scheduler.runFor patientWorld 2500000000).1 = .stopped := by
    decide +kernel
  exact ⟨stopped, (runFor_ends_on_time patientWorld instantaneous visitedRun.setup.scheduler
    2500000000).2.2.2 stopped rfl⟩

end Scheduler

end Marquee
