import Marquee.Settings

/-!
Health gates decide which providers are left alone for a while. The breaker opens after a number of
failures in a row; when its cooldown is over one attempt goes through, and another failure opens it
again.
-/

namespace Marquee

class HealthGate (γ : Type) where
  skips : γ → Instant → ProviderId → Bool
  succeeded : γ → Instant → ProviderId → Noted γ
  failed : γ → Instant → ProviderId → ProviderError → Noted γ

structure AlwaysHealthy where

instance : HealthGate AlwaysHealthy where
  skips _ _ _ := false
  succeeded g _ _ := pure g
  failed g _ _ _ := pure g

structure HealthRecord where
  failures : Nat := 0
  openedAt : Option Instant := none
  lastError : Option String := none
  deriving DecidableEq, Repr

structure Breaker where
  threshold : Nat
  cooldown : Span
  records : Table HealthRecord

namespace Breaker

/-- Counters of failures stay at their largest value once they reach it. -/
def mostFailures : Nat := Nat.pow 2 32 - 1

def new (settings : HealthSettings) : Breaker where
  threshold := max settings.failureThreshold 1
  cooldown := Span.ofSeconds settings.cooldown
  records := {}

def record? (b : Breaker) (provider : ProviderId) : Option HealthRecord :=
  b.records.get? provider

def failures (b : Breaker) (provider : ProviderId) : Nat :=
  ((b.record? provider).map HealthRecord.failures).getD 0

def lastError (b : Breaker) (provider : ProviderId) : Option String :=
  (b.record? provider).bind HealthRecord.lastError

def skips (b : Breaker) (now : Instant) (provider : ProviderId) : Bool :=
  match (b.record? provider).bind HealthRecord.openedAt with
  | some opened => Instant.since now opened < b.cooldown
  | none => false

def succeeded (b : Breaker) (provider : ProviderId) : Noted Breaker :=
  match b.record? provider with
  | none => pure b
  | some r =>
    { value :=
        { b with records := b.records.insert provider { r with failures := 0, openedAt := none } }
      notices := if r.openedAt.isSome then [.providerRecovered provider] else [] }

def failed (b : Breaker) (now : Instant) (provider : ProviderId) (error : ProviderError) :
    Noted Breaker :=
  let r := (b.record? provider).getD {}
  let failures := min (r.failures + 1) mostFailures
  let opens := b.threshold ≤ failures
  let record : HealthRecord :=
    { failures
      openedAt := if opens then some now else r.openedAt
      lastError := some error.message }
  { value := { b with records := b.records.insert provider record }
    notices :=
      if opens ∧ r.openedAt = none then [.providerSuspended provider failures b.cooldown] else [] }

instance : HealthGate Breaker where
  skips := skips
  succeeded b _ provider := b.succeeded provider
  failed := failed

end Breaker

end Marquee
