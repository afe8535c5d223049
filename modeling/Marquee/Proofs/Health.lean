import Mathlib.Tactic.Lemma
import Marquee.Health

namespace Marquee.Breaker

/-- There were enough failures in a row and the last of them is less than a cooldown ago. The times of the
failures are given, the latest first. -/
def Suspends (threshold : Nat) (cooldown : Span) (strikes : List Instant) (t : Instant) : Prop :=
  threshold ≤ strikes.length ∧ ∃ last, strikes.head? = some last ∧ Instant.since t last < cooldown

structure Tracks (b : Breaker) (provider : ProviderId) (strikes : List Instant) : Prop where
  failures : b.failures provider = min strikes.length mostFailures
  openedAt : (b.record? provider).bind HealthRecord.openedAt =
    if b.threshold ≤ strikes.length then strikes.head? else none

variable {b : Breaker} {provider other : ProviderId} {strikes : List Instant} {now t : Instant}
  {error : ProviderError}

lemma record?_failed_of_ne (h : provider ≠ other) :
    (b.failed now other error).value.record? provider = b.record? provider := by
  simp [failed, record?, h]

lemma record?_succeeded_of_ne (h : provider ≠ other) :
    (b.succeeded other).value.record? provider = b.record? provider := by
  rw [succeeded]
  split
  · rfl
  · simp [record?, h]

lemma threshold_succeeded : (b.succeeded other).value.threshold = b.threshold := by
  rw [succeeded]
  split <;> rfl

lemma cooldown_succeeded : (b.succeeded other).value.cooldown = b.cooldown := by
  rw [succeeded]
  split <;> rfl

lemma tracks_new (settings : HealthSettings) (provider : ProviderId) :
    (new settings).Tracks provider [] := by
  constructor
  · rfl
  · simp [new, record?]

lemma tracks_succeeded (b : Breaker) (provider : ProviderId) :
    (b.succeeded provider).value.Tracks provider [] := by
  cases hr : b.record? provider with
  | none =>
    rw [Breaker.succeeded, hr]
    constructor
    · rw [Breaker.failures, Noted.value_pure, hr]
      rfl
    · simp [hr]
  | some r =>
    have after : (b.succeeded provider).value.record? provider =
        some { r with failures := 0, openedAt := none } := by
      rw [Breaker.succeeded, hr]
      simp [record?]
    constructor
    · rw [Breaker.failures, after]
      rfl
    · simp [after]

namespace Tracks

lemma of_record? {b' : Breaker} (h : b.Tracks provider strikes)
    (hr : b'.record? provider = b.record? provider) (ht : b'.threshold = b.threshold) :
    b'.Tracks provider strikes := by
  constructor
  · rw [Breaker.failures, hr]
    exact h.failures
  · rw [hr, ht]
    exact h.openedAt

lemma failed_of_ne (h : b.Tracks provider strikes) (hne : provider ≠ other) :
    (b.failed now other error).value.Tracks provider strikes :=
  h.of_record? (record?_failed_of_ne hne) rfl

lemma succeeded_of_ne (h : b.Tracks provider strikes) (hne : provider ≠ other) :
    (b.succeeded other).value.Tracks provider strikes :=
  h.of_record? (record?_succeeded_of_ne hne) threshold_succeeded

-- The count stands still once it is at its largest, but by then the threshold has been passed.
lemma failed (h : b.Tracks provider strikes) (reachable : b.threshold ≤ mostFailures) :
    (b.failed now provider error).value.Tracks provider (now :: strikes) := by
  let r := (b.record? provider).getD {}
  have count : r.failures = min strikes.length mostFailures := by
    rw [← h.failures, Breaker.failures]
    cases hr : b.record? provider <;> simp [r, hr]
  have opened : r.openedAt = if b.threshold ≤ strikes.length then strikes.head? else none := by
    rw [← h.openedAt]
    cases hr : b.record? provider <;> simp [r, hr]
  have failures : min (r.failures + 1) mostFailures = min (strikes.length + 1) mostFailures := by
    omega
  have opens : b.threshold ≤ min (r.failures + 1) mostFailures ↔
      b.threshold ≤ strikes.length + 1 := by
    omega
  have after : (b.failed now provider error).value.record? provider =
      some { failures := min (r.failures + 1) mostFailures
             openedAt := if b.threshold ≤ min (r.failures + 1) mostFailures then some now else r.openedAt
             lastError := some error.message } := by
    simp [Breaker.failed, record?, r]
  constructor
  · rw [Breaker.failures, after]
    exact failures
  · rw [after]
    change (if _ then _ else _) = if b.threshold ≤ strikes.length + 1 then some now else none
    split
    next enough => rw [if_pos (opens.mp enough)]
    next few =>
      have fewer : ¬ b.threshold ≤ strikes.length + 1 := few ∘ opens.mpr
      rw [if_neg fewer, opened, if_neg (by omega)]

lemma skips_iff (h : b.Tracks provider strikes) :
    b.skips t provider ↔ Suspends b.threshold b.cooldown strikes t := by
  rw [skips, h.openedAt, Suspends]
  by_cases enough : b.threshold ≤ strikes.length
  · rw [if_pos enough]
    cases strikes with
    | nil => simp
    | cons last earlier =>
      rw [List.length_cons] at enough
      simp [enough]
  · rw [if_neg enough]
    exact iff_of_false (nomatch ·) (enough ·.1)

end Tracks

end Marquee.Breaker
