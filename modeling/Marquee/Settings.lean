import Marquee.Scroll.Settings
import Marquee.Table

namespace Marquee

structure HealthSettings where
  failureThreshold : Nat := 3
  cooldown : Float := 60

structure Settings where
  defaultDuration : Float := 15
  modeDurations : Table Float := {}
  dynamicCap : Float := 180
  gracePeriod : Float := 0.5
  highRate : Float := 125
  normalInterval : Float := 1
  liveCheckInterval : Float := 1
  health : HealthSettings := {}
  scroll : ScrollSettings := {}

namespace Settings

def repairedModes (fallback : Float) : List (ModeId × Float) → Noted (List (ModeId × Float))
  | [] => pure []
  | (mode, seconds) :: rest => do
    let seconds ← positiveOr seconds fallback ("mode_durations." ++ mode)
    let rest ← repairedModes fallback rest
    return (mode, seconds) :: rest

def repairedGrace (value : Float) : Noted Float :=
  if ¬ value.isFinite ∨ value < 0 then ⟨0.5, [.settingReplaced "grace_period" value 0.5]⟩
  else atMost value Span.longestSeconds "grace_period"

def repairedThreshold (threshold : Nat) : Noted Nat :=
  if threshold = 0 then ⟨1, [.failureThresholdRaised]⟩ else pure threshold

def repaired (s : Settings) : Noted Settings := do
  let defaultDuration ← positiveOr s.defaultDuration 15 "default_duration"
  let modes ← repairedModes defaultDuration s.modeDurations.entries
  let dynamicCap ← positiveOr s.dynamicCap 180 "dynamic_duration_cap"
  let gracePeriod ← repairedGrace s.gracePeriod
  let highRate ← rateOr s.highRate 125 "high_rate_fps"
  let normalInterval ← positiveOr s.normalInterval 1 "normal_interval"
  let liveCheckInterval ← positiveOr s.liveCheckInterval 1 "live_check_interval"
  let failureThreshold ← repairedThreshold s.health.failureThreshold
  let cooldown ← positiveOr s.health.cooldown 60 "health.cooldown"
  let scroll ← s.scroll.repaired
  return {
    defaultDuration
    modeDurations := ⟨modes⟩
    dynamicCap
    gracePeriod
    highRate
    normalInterval
    liveCheckInterval
    health := { failureThreshold, cooldown }
    scroll }

def baseSeconds (s : Settings) (mode : ModeId) : Float :=
  (s.modeDurations.get? mode).getD s.defaultDuration

def highRateInterval (s : Settings) : Span :=
  Span.ofSeconds (1 / s.highRate)

def normalSpan (s : Settings) : Span :=
  Span.ofSeconds s.normalInterval

def liveCheckSpan (s : Settings) : Span :=
  Span.ofSeconds s.liveCheckInterval

end Settings

end Marquee
