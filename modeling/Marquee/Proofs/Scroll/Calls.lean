import Marquee.Proofs.Airtime
import Marquee.Proofs.Scroll.Smoother
import Marquee.Scroll.Scroller

namespace Marquee

open Number

inductive ScrollCall
  | advance (delta : Exact)
  | update (now : Instant)
  | setImage (image : Bitmap)
  | setWidth (width : Nat)
  | reset

def ScrollCall.restarts : ScrollCall → Bool
  | .advance _ | .update _ => false
  | .setImage _ | .setWidth _ | .reset => true

namespace Scroller

variable {s : Scroller Exact} {settings : ScrollSettings} {v d x : Rat}

def answer (s : Scroller Exact) : ScrollCall → Option (ScrollStep Exact) × Scroller Exact
  | .advance delta => (some (s.advance delta).1, (s.advance delta).2)
  | .update now => s.update now
  | .setImage image => (none, s.setImage image)
  | .setWidth width => (none, s.setWidth width)
  | .reset => (none, s.reset)

def after (settings : ScrollSettings) : List ScrollCall → Scroller Exact
  | [] => (new settings).value
  | call :: earlier => ((after settings earlier).answer call).2

def completes (answer : Option (ScrollStep Exact)) : Bool :=
  answer.any ScrollStep.cycleCompleted

def completions (settings : ScrollSettings) : List ScrollCall → Nat
  | [] => 0
  | call :: earlier =>
    if call.restarts then 0
    else completions settings earlier +
      if completes ((after settings earlier).answer call).1 then 1 else 0

def moved (s : Scroller Exact) (sample : Exact) (step : ScrollStep Exact) : Scroller Exact :=
  { s with
    smoother := s.smoother.push sample
    position := step.position
    cycles := if step.cycleCompleted then s.cycles + 1 else s.cycles
    halted := step.cycleCompleted && s.settings.loopMode = .single }

lemma answer_cases (s : Scroller Exact) (call : ScrollCall) :
    (call.restarts = true ∧
      ∃ contentWidth image, s.answer call = (none, reset { s with contentWidth, image })) ∨
    (call.restarts = false ∧
      ((∃ limiter, s.answer call = (none, { s with limiter })) ∨
        ∃ limiter clock delta, clock.maxDelta = s.clock.maxDelta ∧
          let paced := { s with limiter, clock }
          s.answer call = (some (paced.advance delta).1, (paced.advance delta).2))) := by
  cases call with
  | advance delta => exact .inr ⟨rfl, .inr ⟨s.limiter, s.clock, delta, rfl, rfl⟩⟩
  | update now =>
    refine .inr ⟨rfl, ?_⟩
    unfold answer update
    dsimp only
    split
    · refine .inr ⟨(s.limiter.accept now).2, (s.clock.tick now).2, (s.clock.tick now).1, ?_, rfl⟩
      unfold FrameClock.tick
      split <;> rfl
    · exact .inl ⟨_, rfl⟩
  | setImage image => exact .inl ⟨rfl, _, _, rfl⟩
  | setWidth width => exact .inl ⟨rfl, _, _, rfl⟩
  | reset => exact .inl ⟨rfl, s.contentWidth, s.image, rfl⟩

lemma advance_cycles (s : Scroller Exact) (delta : Exact) : (s.advance delta).2.cycles =
    s.cycles + if (s.advance delta).1.cycleCompleted then 1 else 0 := by
  unfold Scroller.advance
  split
  · exact (UInt32.add_zero _).symm
  · dsimp only
    split
    · rfl
    · exact (UInt32.add_zero _).symm

lemma answer_cycles (s : Scroller Exact) (call : ScrollCall) : (s.answer call).2.cycles =
    if call.restarts then 0 else s.cycles + if completes (s.answer call).1 then 1 else 0 := by
  rcases s.answer_cases call with
    ⟨restarts, width, image, eq⟩ | ⟨restarts, ⟨limiter, eq⟩ | ⟨limiter, clock, delta, -, eq⟩⟩
  · rw [eq, if_pos restarts]
    rfl
  · rw [eq, restarts]
    exact (UInt32.add_zero _).symm
  · rw [eq, restarts]
    exact advance_cycles _ delta

lemma cycles_eq (settings : ScrollSettings) (calls : List ScrollCall) :
    (after settings calls).cycles = UInt32.ofNat (completions settings calls) := by
  induction calls with
  | nil => rfl
  | cons call calls ih =>
    rw [after, answer_cycles, ih, completions]
    split
    · rfl
    · rw [UInt32.ofNat_add]
      split <;> rfl

lemma isCycleComplete_iff (s : Scroller Exact) : s.isCycleComplete ↔ s.cycles ≠ 0 := by
  rw [isCycleComplete, decide_eq_true_iff]
  exact UInt32.pos_iff_ne_zero

structure Forward (s : Scroller Exact) (v d : Rat) : Prop where
  velocity : s.velocity = .finite v
  onward : 0 ≤ v
  maxDelta : s.clock.maxDelta = .finite d
  positive : 0 < d
  smoother : ∃ qs, s.smoother.Holds qs ∧ ∀ q ∈ qs, 0 ≤ q ∧ q ≤ d

lemma Forward.usableDelta (h : s.Forward v d) (delta : Exact) :
    ∃ x, 0 ≤ x ∧ x ≤ d ∧ s.usableDelta delta = .finite x := by
  unfold Scroller.usableDelta
  rw [h.maxDelta]
  cases delta with
  | finite x =>
    refine ⟨max 0 (min x d), le_max_left _ _, max_le h.positive.le (min_le_right _ _), ?_⟩
    exact Exact.clamp_finite h.positive.le
  | _ => exact ⟨0, le_refl 0, h.positive.le, rfl⟩

lemma advance_eq_still (h : s.halted = true ∨ s.contentWidth = 0) (delta : Exact) :
    s.advance delta = (⟨s.position, false⟩, s) :=
  if_pos (by simpa using h)

lemma Forward.advance (h : s.Forward v d) (moving : s.halted = false) (wide : 0 < s.contentWidth)
    (delta : Exact) :
    ∃ x q, (0 ≤ x ∧ x ≤ d) ∧ (0 ≤ q ∧ q ≤ d) ∧ s.usableDelta delta = .finite x ∧
      s.smoother.smoothed (.finite x) = .finite q ∧
      s.advance delta = (s.normalized (s.position + .finite (v * q)),
        s.moved (.finite x) (s.normalized (s.position + .finite (v * q)))) := by
  obtain ⟨qs, holds, range⟩ := h.smoother
  obtain ⟨x, low, high, usable⟩ := h.usableDelta delta
  obtain ⟨q, smoothed, qlow, qhigh⟩ := holds.smoothed_between (fun y hy => (range y hy).1)
    (fun y hy => (range y hy).2) low high
  refine ⟨x, q, ⟨low, high⟩, ⟨qlow, qhigh⟩, usable, smoothed, ?_⟩
  have distance : s.velocity * s.smoother.smoothed (.finite x) = .finite (v * q) := by
    rw [h.velocity, smoothed, Exact.mul_finite]
  unfold Scroller.advance
  rw [if_neg (by simpa [moving] using wide.ne'), usable]
  dsimp only
  rw [distance]
  rfl

lemma Forward.advance_plain (h : s.Forward v d) (moving : s.halted = false) (wide : 0 < s.contentWidth)
    (unsmoothed : s.smoother.capacity = 1) (low : 0 ≤ x) (high : x ≤ d) :
    s.advance (.finite x) = (s.normalized (s.position + .finite (v * x)),
      s.moved (.finite x) (s.normalized (s.position + .finite (v * x)))) := by
  obtain ⟨x', q, -, -, usable, smoothed, moved⟩ := h.advance moving wide (.finite x)
  have kept : s.usableDelta (.finite x) = .finite x := by
    unfold Scroller.usableDelta
    rw [h.maxDelta]
    refine (Exact.clamp_finite h.positive.le).trans ?_
    rw [min_eq_left high, max_eq_right low]
  obtain rfl : x = x' := Exact.finite.inj (kept.symm.trans usable)
  obtain rfl : x = q := by
    rw [Smoother.smoothed, if_pos unsmoothed] at smoothed
    exact Exact.finite.inj smoothed
  exact moved

lemma Forward.moved (h : s.Forward v d) (low : 0 ≤ x) (high : x ≤ d) (step : ScrollStep Exact) :
    (s.moved (.finite x) step).Forward v d := by
  obtain ⟨qs, holds, range⟩ := h.smoother
  refine ⟨h.velocity, h.onward, h.maxDelta, h.positive, _, holds.push x, fun q hq => ?_⟩
  rcases Smoother.mem_window hq with old | rfl
  exacts [range q old, ⟨low, high⟩]

lemma Forward.restart (h : s.Forward v d) (contentWidth : Nat) (image : Option Bitmap) :
    (reset { s with contentWidth, image }).Forward v d :=
  ⟨h.velocity, h.onward, h.maxDelta, h.positive, [], Smoother.holds_empty _ _, nofun⟩

lemma Forward.paced (h : s.Forward v d) (limiter : FrameLimiter) {clock : FrameClock Exact}
    (kept : clock.maxDelta = s.clock.maxDelta) : ({ s with limiter, clock } : Scroller Exact).Forward v d :=
  ⟨h.velocity, h.onward, kept.trans h.maxDelta, h.positive, h.smoother⟩

lemma Forward.advance_forward (h : s.Forward v d) (delta : Exact) : (s.advance delta).2.Forward v d := by
  by_cases still : s.halted = true ∨ s.contentWidth = 0
  · rwa [advance_eq_still still]
  · rw [not_or, Bool.not_eq_true] at still
    obtain ⟨x, q, range, -, -, -, moved⟩ := h.advance still.1 (Nat.pos_of_ne_zero still.2) delta
    rw [moved]
    exact h.moved range.1 range.2 _

lemma Forward.answer (h : s.Forward v d) (call : ScrollCall) : (s.answer call).2.Forward v d := by
  rcases s.answer_cases call with ⟨-, width, image, eq⟩ | ⟨-, ⟨limiter, eq⟩ | ⟨limiter, clock, delta, kept, eq⟩⟩
  · rw [eq]
    exact h.restart width image
  · rw [eq]
    exact h.paced limiter rfl
  · rw [eq]
    exact (h.paced limiter kept).advance_forward delta

lemma advance_settings (s : Scroller Exact) (delta : Exact) :
    (s.advance delta).2.settings = s.settings ∧ (s.advance delta).2.contentWidth = s.contentWidth := by
  unfold Scroller.advance
  split <;> exact ⟨rfl, rfl⟩

lemma answer_settings (s : Scroller Exact) (call : ScrollCall) :
    (s.answer call).2.settings = s.settings := by
  rcases s.answer_cases call with ⟨-, width, image, eq⟩ | ⟨-, ⟨limiter, eq⟩ | ⟨limiter, clock, delta, -, eq⟩⟩
  · rw [eq]
    rfl
  · rw [eq]
  · rw [eq]
    exact (advance_settings _ delta).1

lemma after_settings (settings : ScrollSettings) (calls : List ScrollCall) :
    (after settings calls).settings = settings.repaired.value := by
  induction calls with
  | nil => rfl
  | cons call calls ih => exact (answer_settings _ call).trans ih

lemma repaired_velocity (settings : ScrollSettings) :
    ∃ v, 0 ≤ v ∧ (Scalar.ofFloat settings.repaired.value.velocity : Exact) = .finite v := by
  have usable : Settings.Range.amount.Contains (.number settings.repaired.value.velocity) :=
    settings.repaired_mended.usable _ List.mem_cons_self
  exact Exact.ofFloat_nonneg usable.1 (Double.not_lt_of_le usable.2)

lemma repaired_durationBuffer (settings : ScrollSettings) :
    ∃ b, 0 ≤ b ∧ (Scalar.ofFloat settings.repaired.value.durationBuffer : Exact) = .finite b := by
  have usable : Settings.Range.amount.Contains (.number settings.repaired.value.durationBuffer) :=
    settings.repaired_mended.usable ⟨"scroll.duration_buffer", .amount, _⟩ (by simp [ScrollSettings.listed])
  exact Exact.ofFloat_nonneg usable.1 (Double.not_lt_of_le usable.2)

lemma usable_maxDelta (maxDelta : Float) : Settings.Range.duration.Contains
    (.number (Settings.positiveOr maxDelta FrameClock.defaultMaxDelta "max_delta").value) := by
  have initial : Settings.Range.duration.Contains (.number FrameClock.defaultMaxDelta) := by decide +kernel
  exact (Settings.positiveOr_mended initial).usable

lemma repaired_maxDelta (settings : ScrollSettings) :
    ∃ d, 0 < d ∧ (new settings : Noted (Scroller Exact)).value.clock.maxDelta = .finite d := by
  have usable := usable_maxDelta settings.repaired.value.maxDelta
  exact Exact.ofFloat_pos usable.isFinite usable.1

theorem exists_forward (settings : ScrollSettings) :
    ∃ v d, ∀ calls, (after settings calls).Forward v d := by
  obtain ⟨v, onward, velocity⟩ := repaired_velocity settings
  obtain ⟨d, positive, maxDelta⟩ := repaired_maxDelta settings
  refine ⟨v, d, fun calls => ?_⟩
  induction calls with
  | nil => exact ⟨velocity, onward, maxDelta, positive, [], Smoother.holds_empty _ _, nofun⟩
  | cons call calls ih => exact ih.answer call

end Scroller

end Marquee
