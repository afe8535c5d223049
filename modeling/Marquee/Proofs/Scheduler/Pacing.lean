import Marquee.Proofs.Scheduler.Clock

namespace Marquee.Scheduler

variable {γ σ : Type} {s s' : Scheduler γ σ}

/-- The settings leave time between frames and between looks at live content, and no deadline cuts a
nap short. -/
structure Paced (s : Scheduler γ σ) : Prop where
  normal : 1 ≤ s.settings.normalSpan
  highRate : 1 ≤ s.settings.highRateInterval
  liveCheck : 1 ≤ s.settings.liveCheckSpan
  deadline : s.deadline = none

namespace Paced

lemma onward (hs : s.Paced) (h : Onward s s') : s'.Paced := by
  obtain ⟨normal, highRate, liveCheck, deadline⟩ := hs
  rw [← h.settings] at normal highRate liveCheck
  exact ⟨normal, highRate, liveCheck, h.deadline.trans deadline⟩

lemma bounded_eq (hs : s.Paced) (nap : Span) : s.bounded nap = nap := by
  rw [bounded, hs.deadline]

lemma shouldStop_eq {w : World σ} (hs : s.Paced)
    (unasked : ∀ outside now, w.stopRequested outside now = false) : s.shouldStop w = false := by
  simp [shouldStop, unasked, hs.deadline]

lemma idleSleep_lt (hs : s.Paced) : s.clock < s.idleSleep.clock := by
  have nap : 1 ≤ s.bounded s.settings.normalSpan := by
    rw [hs.bounded_eq]
    exact hs.normal
  exact Nat.lt_add_of_pos_right nap

lemma idle_lt (hs : s.Paced) : s.clock < s.idle.clock := by
  have idle : Paced { s with phase := .idle, rotation := { s.rotation with onDisplay := none } } :=
    ⟨hs.normal, hs.highRate, hs.liveCheck, hs.deadline⟩
  exact idle.idleSleep_lt

lemma intervalFor_pos (hs : s.Paced) (w : World σ) (screen : Screen) :
    1 ≤ s.intervalFor w screen := by
  unfold intervalFor
  dsimp only
  split
  · exact hs.highRate
  · exact hs.normal

end Paced

lemma draw_onward (w : World σ) (p : Showing) (forceClear : Bool) (s : Scheduler γ σ) :
    Onward s (s.draw w p forceClear).2 :=
  ⟨rfl, rfl, rfl, Nat.le_add_right _ _, [_], rfl, by simp [Event.until?, draw, log]⟩

lemma lt_add_nap {now later started target interval : Nat} (hle : now ≤ later)
    (left : now - started < target) (hi : 1 ≤ interval) :
    now < later + min interval (target - (later - started)) := by
  omega

variable [HealthGate γ] {w : World σ} {p : Showing} {first : Bool} {answer : Option Ending}

lemma maintain_onward (w : World σ) (s : Scheduler γ σ) : Onward s (s.maintain w) :=
  (Move.maintained (w := w) s).onward (by decide)

lemma Followed.onward {drawing : Drawing} (h : Followed w p first s drawing answer s') :
    Onward s s' := by
  cases h with
  | failed | empty => exact .refl s
  | judged => exact (judged_moves w p first s).onward (by decide)
  | rested => exact ((judged_moves w p first s).andThen (rest_moves w _ p)).onward (by decide)

lemma Rounded.onward (h : Rounded w p first s answer s') : Onward s s' := by
  cases h with
  | interrupted | timeUp => exact .refl s
  | preempted => exact (preemptionPending_moves w s p).onward (by decide)
  | drew _ _ _ _ _ followed =>
    have checked := (preemptionPending_moves w s p).onward (by decide)
    exact checked.trans ((draw_onward w p _ _).trans followed.onward)

lemma rounds_onward (w : World σ) (p : Showing) (count : Nat) (first : Bool) (s : Scheduler γ σ) :
    Onward s (rounds w p count first s).2 := by
  induction count generalizing first s with
  | zero => exact .refl s
  | succ count ih =>
    have round := (round_rounded w s p first).onward
    rw [rounds]
    cases he : (s.round w p first).1 with
    | some ending => exact round
    | none => exact round.trans (ih false (s.round w p first).2)

lemma rounds_last (w : World σ) (p : Showing) (count : Nat) (first : Bool) (s : Scheduler γ σ) :
    let ended := rounds w p count first s
    ended.1 = .stalled ∨ ∃ first' top, Onward s top ∧ (first' = true → first = true ∧ top = s) ∧
      Rounded w p first' top (some ended.1) ended.2 := by
  induction count generalizing first s with
  | zero => exact .inl rfl
  | succ count ih =>
    have rounded := round_rounded w s p first
    simp only [rounds]
    cases he : (s.round w p first).1 with
    | some ending =>
      rw [he] at rounded
      exact .inr ⟨first, s, .refl s, fun isFirst => ⟨isFirst, rfl⟩, rounded⟩
    | none =>
      refine (ih false (s.round w p first).2).imp_right ?_
      rintro ⟨first', top, onward, isFirst, last⟩
      exact ⟨first', top, rounded.onward.trans onward, fun h => absurd (isFirst h).1 (by decide), last⟩

lemma Followed.clock_lt {drawing : Drawing} {now : Instant}
    (h : Followed w p first s drawing none s') (hs : s.Paced) (hi : 1 ≤ p.interval)
    (hle : now ≤ s.clock) (left : p.elapsed now < p.target) : now < s'.clock := by
  cases h with
  | rested =>
    have judged := (judged_moves w p first s).onward (by decide)
    have maintained := maintain_onward w ((s.acknowledge p first).judge w p).2
    have before := judged.trans maintained
    have nap := lt_add_nap (Nat.le_trans hle before.clock) left hi
    rw [← (hs.onward before).bounded_eq (min p.interval _)] at nap
    exact nap

lemma Rounded.clock_lt (h : Rounded w p first s none s') (hs : s.Paced) (hi : 1 ≤ p.interval) :
    s.clock < s'.clock := by
  cases h with
  | drew _ _ _ left _ followed =>
    have checked := (preemptionPending_moves w s p).onward (by decide)
    have drawn := checked.trans
      (draw_onward w p (first && p.forceClear) (s.preemptionPending w p).2)
    exact followed.clock_lt (hs.onward drawn) hi drawn.clock left

lemma Followed.ne_stalled {drawing : Drawing} (h : Followed w p first s drawing answer s') :
    answer ≠ some .stalled := by
  rintro rfl
  cases h with
  | judged _ _ _ judged =>
    unfold judge at judged
    dsimp only at judged
    split at judged <;> cases judged

lemma Rounded.ne_stalled (h : Rounded w p first s answer s') : answer ≠ some .stalled := by
  cases h with
  | drew _ _ _ _ _ followed => exact followed.ne_stalled
  | _ => simp

lemma sub_lt_of_moved {now later started target count : Nat} (hs : started ≤ now)
    (left : now - started < target) (moved : now < later)
    (hc : target - (now - started) < count + 1) : target - (later - started) < count := by
  omega

lemma rounds_ne_stalled {count : Nat} (hs : s.Paced) (hi : 1 ≤ p.interval) (hp : p.started ≤ s.clock)
    (hc : p.target - p.elapsed s.clock < count) : (rounds w p count first s).1 ≠ .stalled := by
  induction count generalizing first s with
  | zero => exact absurd hc (Nat.not_lt_zero _)
  | succ count ih =>
    have rounded := round_rounded w s p first
    rw [rounds]
    generalize s.round w p first = result at rounded ⊢
    obtain ⟨answer, s'⟩ := result
    cases answer with
    | some ending => exact fun stalled => rounded.ne_stalled (congrArg some stalled)
    | none =>
      have onward := rounded.onward
      have moved := rounded.clock_lt hs hi
      have left : p.elapsed s.clock < p.target := by
        cases rounded with
        | drew _ _ _ left => exact left
      exact ih (hs.onward onward) (Nat.le_trans hp onward.clock) (sub_lt_of_moved hp left moved hc)

lemma openShowing_onward (w : World σ) (selection : Selection) (s : Scheduler γ σ) :
    Onward s (s.openShowing w selection).2 :=
  (Move.opened (w := w) s selection).onward (by decide)

lemma present_ne_stalled (w : World σ) (selection : Selection) (hs : s.Paced) :
    (s.present w selection).1 ≠ .stalled := by
  have enough (target elapsed patience : Nat) : target - elapsed < target + patience + 2 := by
    omega
  rw [present]
  split
  · have opened := openShowing_onward w selection s
    exact rounds_ne_stalled (hs.onward opened) (hs.intervalFor_pos w selection.screen)
      (Nat.le_refl _) (enough _ _ _)
  · simp

lemma ending_of_stalled {selection : Selection} {ending : Ending} {screen : Screen}
    (h : (s.conclude w selection ending).1 = .stalled screen) : ending = .stalled := by
  cases ending with
  | stalled => rfl
  | _ => cases h

lemma tick_ne_stalled (w : World σ) (hs : s.Paced) (screen : Screen) :
    (s.tick w).1 ≠ .stalled screen := by
  rw [tick_eq]
  split
  · simp
  · split
    · simp
    next selection some =>
      have turned : Moves w [.turned] (s.chosen w).2 ((s.chosen w).2.turnedTo selection) :=
        .single (.turned _ _)
      have ended := present_ne_stalled w selection
        (hs.onward (((chosen_moves w s).andThen turned).onward (by decide)))
      rw [serve_eq]
      split
      · simp
      · exact fun stalled => ended (ending_of_stalled stalled)

end Marquee.Scheduler
