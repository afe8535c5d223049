import Marquee.Proofs.Time
import Marquee.Settings

/-! Repaired settings: each is in its range, and each change has been reported once. -/

namespace Marquee

def Notice.setting? : Notice → Option String
  | .settingReplaced name _ _ | .settingLowered name _ _ | .settingRaised name _ _
  | .ceilingDropped name _ => some name
  | .failureThresholdRaised => some "health.failure_threshold"
  | _ => none

lemma Noted.pure_bind {α β : Type} (a : α) (f : α → Noted β) : (pure a : Noted α) >>= f = f a :=
  rfl

namespace Settings

inductive Quantity
  | number (x : Float)
  | count (n : Nat)

/-- Numbers are the same that compare as equal, as zeros of either sign do. -/
def Quantity.same : Quantity → Quantity → Bool
  | number x, number y => x == y
  | count m, count n => m == n
  | _, _ => false

inductive Range
  | duration
  | delay
  | rate
  | ceiling
  | amount
  | threshold
  deriving DecidableEq

def Range.Contains : Range → Quantity → Prop
  | duration, .number x => 0 < x ∧ x ≤ Span.longestSeconds
  | delay, .number x => 0 ≤ x ∧ x ≤ Span.longestSeconds
  | rate, .number x => x.isFinite ∧ slowestRate ≤ x
  | ceiling, .number x => x == 0 ∨ x.isFinite ∧ slowestRate ≤ x
  | amount, .number x => x.isFinite ∧ 0 ≤ x
  | threshold, .count n => 1 ≤ n
  | _, _ => False

instance Range.decidableContains : (range : Range) → (q : Quantity) → Decidable (range.Contains q)
  | duration, .number x => inferInstanceAs (Decidable (0 < x ∧ x ≤ Span.longestSeconds))
  | delay, .number x => inferInstanceAs (Decidable (0 ≤ x ∧ x ≤ Span.longestSeconds))
  | rate, .number x => inferInstanceAs (Decidable (x.isFinite ∧ slowestRate ≤ x))
  | ceiling, .number x => inferInstanceAs (Decidable (x == 0 ∨ x.isFinite ∧ slowestRate ≤ x))
  | amount, .number x => inferInstanceAs (Decidable (x.isFinite ∧ 0 ≤ x))
  | threshold, .count n => inferInstanceAs (Decidable (1 ≤ n))
  | threshold, .number _ | duration, .count _ | delay, .count _ | rate, .count _ | ceiling, .count _
  | amount, .count _ => inferInstanceAs (Decidable False)

structure Setting where
  name : String
  range : Range
  value : Quantity

def Setting.Usable (s : Setting) : Prop :=
  s.range.Contains s.value

/-- What repair leaves alone. A ceiling of minus zero becomes plain zero, which is the same number. -/
def Setting.Keeps (before after : Setting) : Prop :=
  after.name = before.name ∧ after.range = before.range ∧ (before.Usable →
    after.value = before.value ∨
      before.range = .ceiling ∧ before.value.same (.number 0) ∧ after.value = .number 0)

end Settings

open Settings in
def ScrollSettings.listed (s : ScrollSettings) : List Setting := [
  ⟨"scroll velocity", .amount, .number s.velocity⟩,
  ⟨"scroll.max_delta", .duration, .number s.maxDelta⟩,
  ⟨"scroll.target_fps", .rate, .number s.targetRate⟩,
  ⟨"scroll.max_fps", .ceiling, .number s.maxRate⟩,
  ⟨"scroll.duration_buffer", .amount, .number s.durationBuffer⟩]

namespace Settings

def modeSetting (e : ModeId × Float) : Setting :=
  ⟨"mode_durations." ++ e.1, .duration, .number e.2⟩

def listed (s : Settings) : List Setting :=
  ⟨"default_duration", .duration, .number s.defaultDuration⟩ ::
    (s.modeDurations.entries.map modeSetting ++ ([
      ⟨"dynamic_duration_cap", .duration, .number s.dynamicCap⟩,
      ⟨"grace_period", .delay, .number s.gracePeriod⟩,
      ⟨"high_rate_fps", .rate, .number s.highRate⟩,
      ⟨"normal_interval", .duration, .number s.normalInterval⟩,
      ⟨"live_check_interval", .duration, .number s.liveCheckInterval⟩,
      ⟨"health.failure_threshold", .threshold, .count s.health.failureThreshold⟩,
      ⟨"health.cooldown", .duration, .number s.health.cooldown⟩] ++ s.scroll.listed))

def changed (before after : List Setting) : List String :=
  (before.zip after).filterMap fun pair =>
    if pair.2.value.same pair.1.value then none else some pair.1.name

/-! ### Single settings -/

open Number

variable {x y fallback : Float} {name : String} {range : Range} {q q' : Quantity}

lemma isFinite_slowest : slowestRate.isFinite := by
  decide +kernel

lemma slowestRate_pos : 0 < slowestRate := by
  decide +kernel

lemma duration_longest : Range.duration.Contains (.number Span.longestSeconds) :=
  ⟨Span.longest_pos, Double.le_refl Span.isFinite_longest⟩

lemma rate_slowest : Range.rate.Contains (.number slowestRate) :=
  ⟨isFinite_slowest, Double.le_refl isFinite_slowest⟩

lemma delay_half : Range.delay.Contains (.number 0.5) := by
  decide +kernel

namespace Range

lemma Contains.isFinite (h : range.Contains (.number x)) : x.isFinite := by
  cases range with
  | duration => exact Double.isFinite_of_between isFinite_zero Span.isFinite_longest (Double.le_of_lt h.1) h.2
  | delay => exact Double.isFinite_of_between isFinite_zero Span.isFinite_longest h.1 h.2
  | rate | amount => exact h.1
  | ceiling =>
    rcases h with zero | rate
    · obtain ⟨high, low⟩ := Double.beq_iff_le.mp zero
      exact Double.isFinite_of_between isFinite_zero isFinite_zero low high
    · exact rate.1
  | threshold => exact h.elim

lemma Contains.of_same (h : range.Contains q) (same : q.same q') : range.Contains q' := by
  cases q with
  | count m =>
    cases q' with
    | number => cases same
    | count n =>
      obtain rfl : m = n := by simpa [Quantity.same] using same
      exact h
  | number x =>
    cases q' with
    | count => cases same
    | number y =>
      obtain ⟨low, high⟩ := Double.beq_iff_le.mp same
      have finite := Double.isFinite_of_between h.isFinite h.isFinite low high
      cases range with
      | duration => exact ⟨Double.lt_of_lt_of_le h.1 low, Double.le_trans high h.2⟩
      | delay => exact ⟨Double.le_trans h.1 low, Double.le_trans high h.2⟩
      | rate | amount => exact ⟨finite, Double.le_trans h.2 low⟩
      | ceiling =>
        rcases h with zero | rate
        · obtain ⟨zeroHigh, zeroLow⟩ := Double.beq_iff_le.mp zero
          exact .inl (Double.beq_iff_le.mpr ⟨Double.le_trans high zeroHigh, Double.le_trans zeroLow low⟩)
        · exact .inr ⟨finite, Double.le_trans rate.2 low⟩
      | threshold => exact h.elim

lemma Contains.same_self (h : range.Contains q) : q.same q := by
  cases q with
  | count n => exact beq_self_eq_true n
  | number x =>
    have self := Double.le_refl h.isFinite
    exact Double.beq_iff_le.mpr ⟨self, self⟩

end Range

structure Mended (before after : Setting) (ns : List Notice) : Prop where
  usable : after.Usable
  keeps : before.Keeps after
  told : ns.map Notice.setting? = if after.value.same before.value then [] else [some before.name]
  warned : ∀ n ∈ ns, n.level = .warning

lemma mended_kept (h : range.Contains q) : Mended ⟨name, range, q⟩ ⟨name, range, q⟩ [] where
  usable := h
  keeps := ⟨rfl, rfl, fun _ => .inl rfl⟩
  told := by simp [h.same_self]
  warned := by simp

lemma mended_changed {n : Notice} (h : range.Contains q') (unusable : ¬ range.Contains q)
    (setting : n.setting? = some name) (warning : n.level = .warning) :
    Mended ⟨name, range, q⟩ ⟨name, range, q'⟩ [n] where
  usable := h
  keeps := ⟨rfl, rfl, fun usable => absurd usable unusable⟩
  told := by
    have other : q'.same q = false := Bool.eq_false_iff.mpr fun same => unusable (h.of_same same)
    simp [other, setting]
  warned := by simpa using warning

lemma invalid_iff : ¬ x.isFinite ∨ x < 0 ↔ ¬ Range.amount.Contains (.number x) := by
  by_cases finite : x.isFinite
  · simp [Range.Contains, finite, ← not_lt_iff_le isFinite_zero finite]
  · simp [Range.Contains, finite]

lemma atMost_mended (bound : range.Contains (.number x) → x ≤ Span.longestSeconds)
    (limit : range.Contains (.number Span.longestSeconds))
    (short : ¬ Span.longestSeconds < x → range.Contains (.number x)) :
    Mended ⟨name, range, .number x⟩ ⟨name, range, .number (atMost x Span.longestSeconds name).value⟩
      (atMost x Span.longestSeconds name).notices := by
  rw [atMost]
  split
  next long => exact mended_changed limit (fun h => Double.not_lt_of_le (bound h) long) rfl rfl
  next fits => exact mended_kept (short fits)

lemma positiveOr_of_contains (h : Range.duration.Contains (.number x)) :
    positiveOr x fallback name = pure x := by
  rw [positiveOr, if_pos ⟨h.isFinite, h.1⟩, atMost, if_neg (Double.not_lt_of_le h.2)]

lemma positiveOr_mended (hf : Range.duration.Contains (.number fallback)) :
    Mended ⟨name, .duration, .number x⟩ ⟨name, .duration, .number (positiveOr x fallback name).value⟩
      (positiveOr x fallback name).notices := by
  rw [positiveOr]
  split
  next positive =>
    exact atMost_mended And.right duration_longest fun fits =>
      ⟨positive.2, (not_lt_iff_le positive.1 Span.isFinite_longest).mp fits⟩
  next invalid => exact mended_changed hf (fun h => invalid ⟨h.isFinite, h.1⟩) rfl rfl

lemma repairedGrace_of_contains (h : Range.delay.Contains (.number x)) : repairedGrace x = pure x := by
  have valid := mt invalid_iff.mp (not_not.mpr ⟨h.isFinite, h.1⟩)
  rw [repairedGrace, if_neg valid, atMost, if_neg (Double.not_lt_of_le h.2)]

lemma repairedGrace_mended : Mended ⟨"grace_period", .delay, .number x⟩
    ⟨"grace_period", .delay, .number (repairedGrace x).value⟩ (repairedGrace x).notices := by
  rw [repairedGrace]
  split
  next invalid =>
    exact mended_changed delay_half (fun h => invalid_iff.mp invalid ⟨h.isFinite, h.1⟩) rfl rfl
  next valid =>
    obtain ⟨finite, low⟩ := not_not.mp (mt invalid_iff.mpr valid)
    exact atMost_mended And.right ⟨Double.le_of_lt duration_longest.1, duration_longest.2⟩ fun fits =>
      ⟨low, (not_lt_iff_le finite Span.isFinite_longest).mp fits⟩

lemma pos_of_slowest_le (h : slowestRate ≤ x) : 0 < x :=
  Double.lt_of_lt_of_le slowestRate_pos h

lemma rateOr_of_contains (h : Range.rate.Contains (.number x)) : rateOr x fallback name = pure x := by
  have valid : ¬ (¬ x.isFinite ∨ x ≤ 0) := by
    rintro (infinite | low)
    · exact infinite h.1
    · exact Double.not_le_of_lt (pos_of_slowest_le h.2) low
  rw [rateOr, if_neg valid, if_neg (Double.not_lt_of_le h.2)]

lemma rateOr_mended (hf : Range.rate.Contains (.number fallback)) :
    Mended ⟨name, .rate, .number x⟩ ⟨name, .rate, .number (rateOr x fallback name).value⟩
      (rateOr x fallback name).notices := by
  rw [rateOr]
  split
  next invalid =>
    refine mended_changed hf (fun h => ?_) rfl rfl
    exact invalid.elim (absurd h.1) (Double.not_le_of_lt (pos_of_slowest_le h.2))
  next valid =>
    split
    next slow =>
      exact mended_changed rate_slowest (fun h => Double.not_lt_of_le h.2 slow) rfl rfl
    next fast =>
      have finite : x.isFinite := not_not.mp (not_or.mp valid).1
      exact mended_kept ⟨finite, (not_lt_iff_le isFinite_slowest finite).mp fast⟩

lemma nonNegativeOr_of_contains (h : Range.amount.Contains (.number x)) :
    nonNegativeOr x fallback name = pure x :=
  if_neg (mt invalid_iff.mp (not_not.mpr h))

lemma nonNegativeOr_mended (hf : Range.amount.Contains (.number fallback)) :
    Mended ⟨name, .amount, .number x⟩ ⟨name, .amount, .number (nonNegativeOr x fallback name).value⟩
      (nonNegativeOr x fallback name).notices := by
  rw [nonNegativeOr]
  split
  next invalid => exact mended_changed hf (invalid_iff.mp invalid) rfl rfl
  next valid => exact mended_kept (not_not.mp (mt invalid_iff.mpr valid))

lemma zero_beq_zero : (0 : Float) == 0 :=
  Double.beq_iff_le.mpr ⟨Double.le_refl isFinite_zero, Double.le_refl isFinite_zero⟩

lemma ceiling_zero : Range.ceiling.Contains (.number 0) :=
  .inl zero_beq_zero

lemma amount_of_rate (h : Range.rate.Contains (.number x)) : Range.amount.Contains (.number x) :=
  ⟨h.1, Double.le_of_lt (pos_of_slowest_le h.2)⟩

lemma ceilingOrNone_of_contains (h : Range.rate.Contains (.number x)) :
    ceilingOrNone x name = pure x := by
  have nonzero : ¬ (x == 0) = true := fun zero =>
    Double.not_le_of_lt (pos_of_slowest_le h.2) (Double.beq_iff_le.mp zero).1
  have valid := mt invalid_iff.mp (not_not.mpr (amount_of_rate h))
  rw [ceilingOrNone, if_neg nonzero, if_neg valid, rateOr_of_contains h]

lemma ceilingOrNone_cases (x : Float) (name : String) :
    x == 0 ∧ ceilingOrNone x name = pure 0 ∨
    ¬ Range.ceiling.Contains (.number x) ∧ ceilingOrNone x name = ⟨0, [.ceilingDropped name x]⟩ ∨
    ¬ Range.ceiling.Contains (.number x) ∧
      ceilingOrNone x name = ⟨slowestRate, [.settingRaised name x slowestRate]⟩ ∨
    Range.rate.Contains (.number x) ∧ ceilingOrNone x name = pure x := by
  by_cases zero : x == 0
  · exact .inl ⟨zero, if_pos zero⟩
  by_cases invalid : ¬ x.isFinite ∨ x < 0
  · refine .inr (.inl ⟨?_, by rw [ceilingOrNone, if_neg zero, if_pos invalid]⟩)
    exact not_or.mpr ⟨zero, fun rate => invalid_iff.mp invalid (amount_of_rate rate)⟩
  obtain ⟨finite, low⟩ := not_not.mp (mt invalid_iff.mpr invalid)
  by_cases slow : x < slowestRate
  · have positive : ¬ (¬ x.isFinite ∨ x ≤ 0) :=
      not_or.mpr ⟨not_not.mpr finite, fun high => zero (Double.beq_iff_le.mpr ⟨high, low⟩)⟩
    refine .inr (.inr (.inl ⟨not_or.mpr ⟨zero, fun rate => Double.not_lt_of_le rate.2 slow⟩, ?_⟩))
    rw [ceilingOrNone, if_neg zero, if_neg invalid, rateOr, if_neg positive, if_pos slow]
  · have rate : Range.rate.Contains (.number x) := ⟨finite, (not_lt_iff_le isFinite_slowest finite).mp slow⟩
    exact .inr (.inr (.inr ⟨rate, ceilingOrNone_of_contains rate⟩))

lemma ceilingOrNone_mended : Mended ⟨name, .ceiling, .number x⟩
    ⟨name, .ceiling, .number (ceilingOrNone x name).value⟩ (ceilingOrNone x name).notices := by
  obtain ⟨zero, h⟩ | ⟨unusable, h⟩ | ⟨unusable, h⟩ | ⟨rate, h⟩ := ceilingOrNone_cases x name <;> rw [h]
  · obtain ⟨high, low⟩ := Double.beq_iff_le.mp zero
    have same : (0 : Float) == x := Double.beq_iff_le.mpr ⟨low, high⟩
    refine ⟨ceiling_zero, ⟨rfl, rfl, fun _ => .inr ⟨rfl, zero, rfl⟩⟩, ?_, by simp⟩
    simp [Quantity.same, same]
  · exact mended_changed ceiling_zero unusable rfl rfl
  · exact mended_changed (.inr rate_slowest) unusable rfl rfl
  · exact mended_kept (.inr rate)

lemma ceilingOrNone_again :
    ceilingOrNone (ceilingOrNone x name).value name = pure (ceilingOrNone x name).value := by
  have none : ceilingOrNone 0 name = pure 0 := if_pos zero_beq_zero
  obtain ⟨-, h⟩ | ⟨-, h⟩ | ⟨-, h⟩ | ⟨rate, h⟩ := ceilingOrNone_cases x name <;> rw [h]
  · exact none
  · exact none
  · exact ceilingOrNone_of_contains rate_slowest
  · exact h

lemma repairedThreshold_mended {n : Nat} : Mended ⟨"health.failure_threshold", .threshold, .count n⟩
    ⟨"health.failure_threshold", .threshold, .count (repairedThreshold n).value⟩
    (repairedThreshold n).notices := by
  rw [repairedThreshold]
  split
  next zero => exact mended_changed (Nat.le_refl 1) (by simp [Range.Contains, zero]) rfl rfl
  next positive => exact mended_kept (Nat.pos_of_ne_zero positive)

/-! ### All settings -/

inductive MendedAll : List Setting → List Setting → List Notice → Prop
  | nil : MendedAll [] [] []
  | cons {b a : Setting} {bs as : List Setting} {ns ms : List Notice} :
    Mended b a ns → MendedAll bs as ms → MendedAll (b :: bs) (a :: as) (ns ++ ms)

namespace MendedAll

variable {bs as bs' as' : List Setting} {ns ns' : List Notice}

lemma append (h : MendedAll bs as ns) (h' : MendedAll bs' as' ns') :
    MendedAll (bs ++ bs') (as ++ as') (ns ++ ns') := by
  induction h with
  | nil => exact h'
  | cons head _ ih =>
    rw [List.append_assoc]
    exact .cons head ih

lemma usable (h : MendedAll bs as ns) : ∀ a ∈ as, a.Usable := by
  induction h with
  | nil => simp
  | cons head _ ih => simpa using ⟨head.usable, ih⟩

lemma keeps (h : MendedAll bs as ns) : List.Forall₂ Setting.Keeps bs as := by
  induction h with
  | nil => exact .nil
  | cons head _ ih => exact .cons head.keeps ih

lemma told (h : MendedAll bs as ns) : ns.map Notice.setting? = (changed bs as).map some := by
  induction h with
  | nil => rfl
  | @cons b a _ _ _ _ head _ ih =>
    rw [List.map_append, head.told, ih]
    by_cases same : a.value.same b.value <;> simp [changed, same]

lemma warned (h : MendedAll bs as ns) : ∀ n ∈ ns, n.level = .warning := by
  induction h with
  | nil => simp
  | cons head _ ih => simpa [or_imp, forall_and] using ⟨head.warned, ih⟩

end MendedAll

end Settings

open Settings in
lemma ScrollSettings.repaired_mended (s : ScrollSettings) :
    MendedAll s.listed s.repaired.value.listed s.repaired.notices :=
  .cons (nonNegativeOr_mended (by decide +kernel)) <|
  .cons (positiveOr_mended (by decide +kernel)) <|
  .cons (rateOr_mended (by decide +kernel)) <|
  .cons ceilingOrNone_mended <|
  .cons (nonNegativeOr_mended (by decide +kernel)) .nil

namespace Settings

lemma repairedModes_eq (fallback : Float) (es : List (ModeId × Float)) :
    repairedModes fallback es =
      ⟨es.map fun e => (e.1, (positiveOr e.2 fallback ("mode_durations." ++ e.1)).value),
        es.flatMap fun e => (positiveOr e.2 fallback ("mode_durations." ++ e.1)).notices⟩ := by
  induction es with
  | nil => rfl
  | cons e es ih =>
    rw [repairedModes, ih]
    exact congrArg (Noted.mk _) (congrArg (_ ++ ·) (List.append_nil _))

lemma repairedModes_names (es : List (ModeId × Float)) :
    (repairedModes fallback es).value.map Prod.fst = es.map Prod.fst := by
  rw [repairedModes_eq, List.map_map]
  rfl

lemma repairedModes_mended (hf : Range.duration.Contains (.number fallback)) (es : List (ModeId × Float)) :
    MendedAll (es.map modeSetting) ((repairedModes fallback es).value.map modeSetting)
      (repairedModes fallback es).notices := by
  induction es with
  | nil => exact .nil
  | cons e es ih => simpa [repairedModes, modeSetting] using MendedAll.cons (positiveOr_mended hf) ih

lemma repaired_mended (s : Settings) : MendedAll s.listed s.repaired.value.listed s.repaired.notices := by
  have base : Mended _ _ (positiveOr s.defaultDuration 15 "default_duration").notices :=
    positiveOr_mended (by decide +kernel)
  have scroll : MendedAll s.scroll.listed s.scroll.repaired.value.listed
      (s.scroll.repaired.notices ++ []) := by
    rw [List.append_nil]
    exact s.scroll.repaired_mended
  exact .cons base <| .append (repairedModes_mended base.usable _) <|
    .cons (positiveOr_mended (by decide +kernel)) <|
    .cons repairedGrace_mended <|
    .cons (rateOr_mended (by decide +kernel)) <|
    .cons (positiveOr_mended (by decide +kernel)) <|
    .cons (positiveOr_mended (by decide +kernel)) <|
    .cons repairedThreshold_mended <|
    .cons (positiveOr_mended (by decide +kernel)) scroll

/-! ### Once more -/

lemma repairedModes_of_usable {es : List (ModeId × Float)}
    (h : ∀ e ∈ es, Range.duration.Contains (.number e.2)) : repairedModes fallback es = pure es := by
  induction es with
  | nil => rfl
  | cons e es ih =>
    obtain ⟨head, rest⟩ := List.forall_mem_cons.mp h
    rw [repairedModes, positiveOr_of_contains head, ih rest]
    rfl

lemma repairedThreshold_of_contains {n : Nat} (h : Range.threshold.Contains (.count n)) :
    repairedThreshold n = pure n :=
  if_neg (Nat.ne_of_gt h)

end Settings

open Settings in
lemma ScrollSettings.repaired_of_usable {s : ScrollSettings} (usable : ∀ a ∈ s.listed, a.Usable)
    (plain : ceilingOrNone s.maxRate "scroll.max_fps" = pure s.maxRate) : s.repaired = pure s := by
  simp only [listed, List.forall_mem_cons] at usable
  obtain ⟨velocity, maxDelta, targetRate, -, durationBuffer, -⟩ := usable
  rw [repaired, nonNegativeOr_of_contains velocity, positiveOr_of_contains maxDelta,
    rateOr_of_contains targetRate, plain, nonNegativeOr_of_contains durationBuffer]
  rfl

namespace Settings

lemma repaired_of_usable {s : Settings} (usable : ∀ a ∈ s.listed, a.Usable)
    (plain : ceilingOrNone s.scroll.maxRate "scroll.max_fps" = pure s.scroll.maxRate) :
    s.repaired = pure s := by
  simp only [listed, List.forall_mem_cons, List.forall_mem_append, List.forall_mem_map] at usable
  obtain ⟨base, modes, ⟨cap, grace, highRate, normal, live, threshold, cooldown, -⟩, scroll⟩ := usable
  rw [repaired, positiveOr_of_contains base, Noted.pure_bind, repairedModes_of_usable modes,
    Noted.pure_bind, positiveOr_of_contains cap,
    repairedGrace_of_contains grace, rateOr_of_contains highRate, positiveOr_of_contains normal,
    positiveOr_of_contains live, repairedThreshold_of_contains threshold, positiveOr_of_contains cooldown,
    ScrollSettings.repaired_of_usable scroll plain]
  rfl

def Reordered (s s' : Settings) : Prop :=
  ∃ es, es.Perm s.modeDurations.entries ∧ s' = { s with modeDurations := ⟨es⟩ }

lemma Reordered.usable {s s' : Settings} (h : Reordered s s') (usable : ∀ a ∈ s.listed, a.Usable) :
    ∀ a ∈ s'.listed, a.Usable := by
  obtain ⟨es, order, rfl⟩ := h
  simp only [listed, List.forall_mem_cons, List.forall_mem_append, List.forall_mem_map] at usable ⊢
  exact ⟨usable.1, fun e he => usable.2.1 e (order.subset he), usable.2.2⟩

lemma repairedModes_perm (fallback : Float) {es es' : List (ModeId × Float)} (order : es'.Perm es) :
    (repairedModes fallback es').value.Perm (repairedModes fallback es).value ∧
      (repairedModes fallback es').notices.Perm (repairedModes fallback es).notices := by
  rw [repairedModes_eq, repairedModes_eq]
  exact ⟨order.map _, order.flatMap_right _⟩

lemma Reordered.repaired {s s' : Settings} (h : Reordered s s') :
    Reordered s.repaired.value s'.repaired.value ∧ s'.repaired.notices.Perm s.repaired.notices := by
  obtain ⟨es, order, rfl⟩ := h
  have modes := repairedModes_perm (positiveOr s.defaultDuration 15 "default_duration").value order
  refine ⟨⟨_, modes.1, rfl⟩, ?_⟩
  exact .append_left _ (.append_right _ modes.2)

/-- Settings are repaired once and for all, in whatever order the modes come. -/
theorem repaired_settings_are_usable (s : Settings) :
    (∀ setting ∈ s.repaired.value.listed, setting.Usable) ∧
    s.repaired.value.modeDurations.names = s.modeDurations.names ∧
    List.Forall₂ Setting.Keeps s.listed s.repaired.value.listed ∧
    s.repaired.value.scroll = { s.repaired.value.scroll with
      viewportWidth := s.scroll.viewportWidth, loopMode := s.scroll.loopMode,
      smoothing := s.scroll.smoothing } ∧
    s.repaired.notices.map Notice.setting? = (changed s.listed s.repaired.value.listed).map some ∧
    (∀ n ∈ s.repaired.notices, n.level = .warning) ∧
    (∀ s', Reordered s s' →
      Reordered s.repaired.value s'.repaired.value ∧ s'.repaired.notices.Perm s.repaired.notices) ∧
    ∀ t, Reordered s.repaired.value t → t.repaired = pure t := by
  have mended := s.repaired_mended
  refine ⟨mended.usable, repairedModes_names _, mended.keeps, rfl, mended.told, mended.warned,
    fun _ => Reordered.repaired, fun t h => ?_⟩
  refine repaired_of_usable (h.usable mended.usable) ?_
  obtain ⟨es, -, rfl⟩ := h
  exact ceilingOrNone_again

end Settings

end Marquee
