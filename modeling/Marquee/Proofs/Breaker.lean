import Mathlib.Data.List.Induction
import Marquee.Proofs.Health

/-! A breaker and its history. What it answers about a provider depends on the failures of that provider
since its last success, and not on what it was told of others. -/

namespace Marquee

structure HealthReport where
  provider : ProviderId
  error : Option ProviderError := none
  time : Instant
  deriving DecidableEq

def HealthGate.hear {γ : Type} [HealthGate γ] (gate : γ) (r : HealthReport) : γ :=
  match r.error with
  | none => (HealthGate.succeeded gate r.time r.provider).value
  | some error => (HealthGate.failed gate r.time r.provider error).value

namespace HealthReport

variable {provider : ProviderId} {reports : List HealthReport} {r : HealthReport}

def isFailure (r : HealthReport) : Bool :=
  r.error.isSome

def about (provider : ProviderId) (reports : List HealthReport) : List HealthReport :=
  (reports.filter fun r => r.provider = provider).reverse

/-- The failures of a provider since it last succeeded, the latest first. -/
def strikes (provider : ProviderId) (reports : List HealthReport) : List HealthReport :=
  (about provider reports).takeWhile isFailure

lemma about_concat : about provider (reports ++ [r]) =
    if r.provider = provider then r :: about provider reports else about provider reports := by
  by_cases own : r.provider = provider <;> simp [about, own]

lemma about_filter :
    about provider (reports.filter fun r => r.provider = provider) = about provider reports := by
  simp [about]

lemma strikes_filter :
    strikes provider (reports.filter fun r => r.provider = provider) = strikes provider reports := by
  rw [strikes, about_filter, strikes]

end HealthReport

namespace Breaker

open HealthReport

variable {b : Breaker} {provider other : ProviderId} {threshold : Nat} {cooldown : Span}
  {reports : List HealthReport} {r : HealthReport}

lemma lastError_of_record? {b' : Breaker} (h : b'.record? provider = b.record? provider) :
    b'.lastError provider = b.lastError provider := by
  rw [lastError, lastError, h]

-- A success is forgiven, but the text of the last failure stays on record.
lemma lastError_succeeded : (b.succeeded other).value.lastError provider = b.lastError provider := by
  by_cases own : provider = other
  · subst own
    cases hr : b.record? provider with
    | none =>
      rw [succeeded, hr]
      rfl
    | some record =>
      have after : (b.succeeded provider).value.record? provider =
          some { record with failures := 0, openedAt := none } := by
        rw [succeeded, hr]
        simp [record?]
      rw [lastError, lastError, after, hr]
      rfl
  · exact lastError_of_record? (record?_succeeded_of_ne own)

lemma lastError_failed (now : Instant) (error : ProviderError) :
    (b.failed now provider error).value.lastError provider = some error.message := by
  simp [lastError, record?, failed]

structure Heard (threshold : Nat) (cooldown : Span) (reports : List HealthReport) (b : Breaker) : Prop where
  threshold_eq : b.threshold = threshold
  cooldown_eq : b.cooldown = cooldown
  tracks : ∀ provider, b.Tracks provider ((strikes provider reports).map HealthReport.time)
  lastError : ∀ provider, b.lastError provider =
    ((about provider reports).findSome? HealthReport.error).map ProviderError.message

lemma heard_new (settings : HealthSettings) :
    Heard (max settings.failureThreshold 1) (Span.ofSeconds settings.cooldown) [] (new settings) where
  threshold_eq := rfl
  cooldown_eq := rfl
  tracks := tracks_new settings
  lastError _ := rfl

lemma Heard.hear (h : Heard threshold cooldown reports b) (reachable : threshold ≤ mostFailures)
    (r : HealthReport) : Heard threshold cooldown (reports ++ [r]) (HealthGate.hear b r) := by
  obtain ⟨told, error, now⟩ := r
  cases error with
  | none =>
    have heard : HealthGate.hear b ⟨told, none, now⟩ = (b.succeeded told).value := rfl
    refine ⟨threshold_succeeded.trans h.threshold_eq, cooldown_succeeded.trans h.cooldown_eq,
      fun provider => ?_, fun provider => ?_⟩
    · rw [heard, strikes, about_concat]
      split
      next own =>
        obtain rfl : told = provider := own
        exact tracks_succeeded b told
      next foreign => exact (h.tracks provider).succeeded_of_ne (Ne.symm foreign)
    · rw [heard, lastError_succeeded, h.lastError, about_concat]
      split <;> rfl
  | some error =>
    have heard : HealthGate.hear b ⟨told, some error, now⟩ = (b.failed now told error).value := rfl
    refine ⟨h.threshold_eq, h.cooldown_eq, fun provider => ?_, fun provider => ?_⟩
    · rw [heard, strikes, about_concat]
      split
      next own =>
        obtain rfl : told = provider := own
        exact (h.tracks told).failed (h.threshold_eq ▸ reachable)
      next foreign => exact (h.tracks provider).failed_of_ne (Ne.symm foreign)
    · rw [heard, about_concat]
      split
      next own =>
        obtain rfl : told = provider := own
        exact lastError_failed now error
      next foreign =>
        have kept : (b.failed now told error).value.record? provider = b.record? provider :=
          record?_failed_of_ne (Ne.symm foreign)
        exact (lastError_of_record? kept).trans (h.lastError provider)

namespace Heard

variable {t : Instant}

lemma skips_iff (h : Heard threshold cooldown reports b) : b.skips t provider ↔
    Suspends threshold cooldown ((strikes provider reports).map HealthReport.time) t := by
  rw [(h.tracks provider).skips_iff, h.threshold_eq, h.cooldown_eq]

lemma failures_eq (h : Heard threshold cooldown reports b) :
    b.failures provider = min (strikes provider reports).length mostFailures := by
  rw [(h.tracks provider).failures, List.length_map]

end Heard

lemma heard_all (settings : HealthSettings) (fits : settings.failureThreshold ≤ mostFailures)
    (reports : List HealthReport) :
    Heard (max settings.failureThreshold 1) (Span.ofSeconds settings.cooldown) reports
      (reports.foldl HealthGate.hear (new settings)) := by
  have reachable : max settings.failureThreshold 1 ≤ mostFailures := Nat.max_le.mpr ⟨fits, by decide⟩
  induction reports using List.reverseRecOn with
  | nil => exact heard_new settings
  | append_singleton reports r ih =>
    rw [List.foldl_append]
    exact ih.hear reachable r

/-- A breaker skips a provider when that has failed often enough since its last success and the last failure is
less than a cooldown ago. It counts these failures, to the largest number of 32 bits, and keeps the text of the
last failure of all. Had it been told of no other provider, its answers would be the same. -/
theorem answers_follow_own_reports (settings : HealthSettings)
    (fits : settings.failureThreshold ≤ mostFailures) (reports : List HealthReport)
    (provider : ProviderId) :
    let b := reports.foldl HealthGate.hear (new settings)
    let failures := strikes provider reports
    (∀ t, b.skips t provider ↔
      Suspends (max settings.failureThreshold 1) (Span.ofSeconds settings.cooldown)
        (failures.map HealthReport.time) t) ∧
    b.failures provider = min failures.length mostFailures ∧
    b.lastError provider =
      ((about provider reports).findSome? HealthReport.error).map ProviderError.message ∧
    let alone := (reports.filter fun r => r.provider = provider).foldl HealthGate.hear (new settings)
    (∀ t, alone.skips t provider = b.skips t provider) ∧ alone.failures provider = b.failures provider ∧
      alone.lastError provider = b.lastError provider := by
  intro b failures
  have heard := heard_all settings fits reports
  have heardAlone := heard_all settings fits (reports.filter fun r => r.provider = provider)
  refine ⟨fun t => heard.skips_iff, heard.failures_eq, heard.lastError provider, fun t => ?_, ?_, ?_⟩
  · rw [Bool.eq_iff_iff, heardAlone.skips_iff, heard.skips_iff, strikes_filter]
  · rw [heardAlone.failures_eq, heard.failures_eq, strikes_filter]
  · rw [heardAlone.lastError, heard.lastError, about_filter]

def stormyReports : List HealthReport := [
  ⟨"weather", some (.display "gone"), 0⟩,
  ⟨"clock", some (.query "lost"), 1000000000⟩,
  ⟨"weather", some (.display "late"), 2000000000⟩]

theorem second_failure_suspends_weather :
    let settings : HealthSettings := { failureThreshold := 2, cooldown := 30 }
    settings.failureThreshold ≤ mostFailures ∧
    let b := stormyReports.foldl HealthGate.hear (new settings)
    (b.skips 31999999999 "weather" ∧ ¬ b.skips 32000000000 "weather") ∧ b.failures "weather" = 2 ∧
    b.lastError "weather" = some "Display failed: late" := by
  intro settings
  have fits : settings.failureThreshold ≤ mostFailures := by decide
  have cooldown : Span.ofSeconds settings.cooldown = 30000000000 := by decide +kernel
  obtain ⟨skips, count, text, -⟩ := answers_follow_own_reports settings fits stormyReports "weather"
  refine ⟨fits, ⟨(skips _).mpr ?_, fun late => ?_⟩, count, text⟩
  · rw [cooldown]
    exact ⟨by decide, 2000000000, rfl, by decide⟩
  · obtain ⟨-, last, found, short⟩ := (skips _).mp late
    obtain rfl : 2000000000 = last := Option.some.inj found
    rw [cooldown] at short
    exact absurd short (by decide)

end Breaker

end Marquee
