import Marquee.Proofs.Scheduler.Pacing
import Marquee.Proofs.Script
import Marquee.Proofs.Time

/-! Pauses between frames. Repaired settings keep them within seven days, but settings of less than half a
nanosecond leave no pause at all, and a showing of so short a time has no frame. -/

namespace Marquee

namespace Scheduler

variable {γ σ : Type} {s s' : Scheduler γ σ}

lemma bounded_le (s : Scheduler γ σ) (nap : Span) : s.bounded nap ≤ nap := by
  rw [bounded]
  split
  · exact Nat.min_le_left _ _
  · exact Nat.le_refl nap

lemma bounded_eq_zero {nap : Span} :
    s.bounded nap = 0 ↔ nap = 0 ∨ s.deadline.any fun d => d ≤ s.clock := by
  rw [bounded]
  cases s.deadline with
  | none => simp
  | some d => simp [Instant.since, Nat.sub_eq_zero_iff_le]

lemma intervalFor_mem (w : World σ) (screen : Screen) (s : Scheduler γ σ) :
    s.intervalFor w screen ∈ [s.settings.highRateInterval, s.settings.normalSpan] := by
  rw [intervalFor]
  split <;> simp

def pause (p : Showing) (s : Scheduler γ σ) : Span :=
  s.bounded (min p.interval (p.target - p.elapsed s.clock))

lemma pause_le (p : Showing) (s : Scheduler γ σ) : s.pause p ≤ p.interval :=
  Nat.le_trans (bounded_le s _) (Nat.min_le_left _ _)

lemma pause_eq_zero {p : Showing} : s.pause p = 0 ↔
    p.interval = 0 ∨ p.target ≤ p.elapsed s.clock ∨ s.deadline.any fun d => d ≤ s.clock := by
  rw [pause, bounded_eq_zero, Nat.min_eq_zero_iff, Nat.sub_eq_zero_iff_le, or_assoc]

variable [HealthGate γ] {w : World σ} {p : Showing} {first : Bool}

lemma Followed.slept {drawing : Drawing} (h : Followed w p first s drawing none s') :
    ∃ woken, Onward s woken ∧ s' = woken.sleep (woken.pause p) := by
  cases h with
  | rested =>
    have judged := (judged_moves w p first s).onward (by decide)
    exact ⟨_, judged.trans (maintain_onward w _), rfl⟩

lemma Rounded.slept (h : Rounded w p first s none s') :
    ∃ woken, Onward s woken ∧ s' = woken.sleep (woken.pause p) := by
  cases h with
  | drew _ _ _ _ _ followed =>
    have checked := (preemptionPending_moves w s p).onward (by decide)
    obtain ⟨woken, onward, rfl⟩ := followed.slept
    exact ⟨woken, checked.trans ((draw_onward w p _ _).trans onward), rfl⟩

lemma Rounded.drawn {answer : Option Ending} (h : Rounded w p first s answer s')
    (going : s.shouldStop w = false) (left : p.elapsed s.clock < p.target)
    (stay : (s.preemptionPending w p).1 = false) :
    ∃ newer f older, s'.journal = newer ++ .drawn f :: older ∧ s.journal <:+ older ∧
      f.screen = p.screen := by
  cases h with
  | interrupted stop => simp [stop] at going
  | timeUp up => exact absurd left (Nat.not_lt_of_le up)
  | preempted _ _ pre => simp [pre] at stay
  | drew _ _ _ _ _ followed =>
    obtain ⟨older, hold, -⟩ := ((preemptionPending_moves w s p).onward (by decide)).journal
    obtain ⟨newer, hnew, -⟩ := followed.onward.journal
    exact ⟨newer, _, _, hnew, ⟨older, hold.symm⟩, rfl⟩

lemma performAll_settings (u : Setup γ σ) (ops : List (Operation σ)) :
    (u.scheduler.performAll w ops).settings = u.settings.repaired.value :=
  performAll_of_moves (P := fun s => s.settings = u.settings.repaired.value)
    (fun _ _ _ move hs => move.kept.settings.trans hs) rfl ops

/-- Pauses and showings of repaired settings: none is longer than seven days, but those of up to half a
nanosecond are nothing. An undisturbed showing has a frame if it lasts at all, and a round of it that goes
on sleeps unless there is no interval between frames or the time is up. -/
theorem pauses_of_repaired_settings (w : World σ) (u : Setup γ σ) (ops : List (Operation σ))
    (selection : Selection) :
    let t := u.settings.repaired.value
    let opened := (u.scheduler.performAll w ops).openShowing w selection
    let p := opened.1
    t.highRateInterval.Renders (1 / t.highRate) ∧ t.normalSpan.Renders t.normalInterval ∧
    t.liveCheckSpan.Renders t.liveCheckInterval ∧ p.target.Renders p.airtime.target ∧
    p.interval ∈ [t.highRateInterval, t.normalSpan] ∧
    (opened.2.shouldStop w = false → (opened.2.preemptionPending w p).1 = false →
      if 1 ≤ p.target then
        ∃ newer f older, (opened.2.round w p true).2.journal = newer ++ .drawn f :: older ∧
          opened.2.journal <:+ older ∧ f.screen = selection.screen
      else opened.2.round w p true = (some .completed, opened.2)) ∧
    ∀ first (s : Scheduler γ σ), (s.round w p first).1 = none →
      ∃ time nap older, (s.round w p first).2.journal = .slept time nap :: older ∧
        s.clock ≤ time ∧ (s.round w p first).2.clock = time + nap ∧ nap ≤ Span.longest ∧
        (nap = 0 ↔ p.interval = 0 ∨ p.target ≤ p.elapsed time ∨ s.deadline.any fun d => d ≤ time) := by
  intro t opened p
  have settings : (u.scheduler.performAll w ops).settings = t := performAll_settings u ops
  have interval : p.interval ∈ [t.highRateInterval, t.normalSpan] :=
    settings ▸ intervalFor_mem w selection.screen _
  refine ⟨Span.ofSeconds_renders _, Span.ofSeconds_renders _, Span.ofSeconds_renders _,
    Span.ofSeconds_renders _, interval, fun going stay => ?_, fun first s goesOn => ?_⟩
  · have rounded := round_rounded w opened.2 p true
    have begun : p.elapsed opened.2.clock = 0 := Nat.sub_self _
    split
    next some =>
      refine rounded.drawn going ?_ stay
      rwa [begun]
    next none =>
      have up : p.target ≤ p.elapsed opened.2.clock := begun ▸ Nat.le_of_lt_succ (Nat.lt_of_not_le none)
      rw [round, going]
      exact if_pos up
  · have rounded := round_rounded w s p first
    rw [goesOn] at rounded
    obtain ⟨woken, onward, hs⟩ := rounded.slept
    rw [hs]
    refine ⟨woken.clock, woken.pause p, woken.journal, rfl, onward.clock, rfl, ?_, ?_⟩
    · refine Nat.le_trans (pause_le p woken) ?_
      rcases List.mem_pair.mp interval with h | h <;> rw [h] <;> exact Span.ofSeconds_le_longest _
    · rw [← onward.deadline]
      exact pause_eq_zero

def briskSettings : Settings where
  defaultDuration := 1e-10
  modeDurations := ⟨[("clock", 1)]⟩
  highRate := 1e10
  normalInterval := 1e-10
  liveCheckInterval := 1e-10

def briskSetup : Setup AlwaysHealthy Script :=
  { Script.setup {} with settings := briskSettings }

theorem brisk_settings_leave_no_pause :
    briskSettings.repaired.notices = [] ∧
    let t := briskSettings.repaired.value
    t.highRateInterval = 0 ∧ t.normalSpan = 0 ∧ t.liveCheckSpan = 0 ∧
    let ticked := briskSetup.scheduler.tick Script.world
    ticked.1 = .completed ⟨"scores_recent", "scores"⟩ ∧ ticked.2.journal.frames.length = 0 ∧
    let opened := briskSetup.scheduler.openShowing Script.world ⟨⟨"clock", "clock"⟩, .rotation 2⟩
    let spun := rounds Script.world opened.1 9 true opened.2
    spun.1 = .stalled ∧ spun.2.clock = 0 ∧ spun.2.journal.frames.length = 9 := by
  decide +kernel

end Scheduler

end Marquee
