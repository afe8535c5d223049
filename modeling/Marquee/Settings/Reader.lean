import Marquee.Json.Shape
import Marquee.Settings

namespace Marquee

open Json

structure HealthDraft where
  failureThreshold : Option Nat := none
  cooldown : Option Float := none

namespace HealthSettings

def fields : List (RecordField HealthDraft) := [
  { name := "failure_threshold"
    given := fun d => d.failureThreshold.isSome
    read := fun d => return { d with failureThreshold := some (← natural "u32" (Nat.pow 2 32)) } },
  { name := "cooldown"
    given := fun d => d.cooldown.isSome
    read := fun d => return { d with cooldown := some (← float) } }]

def finish (d : HealthDraft) : HealthSettings :=
  let e : HealthSettings := {}
  { failureThreshold := d.failureThreshold.getD e.failureThreshold
    cooldown := d.cooldown.getD e.cooldown }

def shape : RecordShape HealthDraft HealthSettings where
  name := "HealthConfig"
  fields := fields
  empty := {}
  required := 0
  finish := fun d => .ok (finish d)

end HealthSettings

structure ScrollDraft where
  velocity : Option Float := none
  viewportWidth : Option Nat := none
  loopMode : Option LoopMode := none
  maxDelta : Option Float := none
  smoothing : Option Nat := none
  targetRate : Option Float := none
  maxRate : Option Float := none
  durationBuffer : Option Float := none

namespace ScrollSettings

def loopModes : List (String × LoopMode) :=
  [("continuous", .continuous), ("single", .single), ("modulo", .modulo)]

def fields : List (RecordField ScrollDraft) := [
  { name := "velocity_px_per_s"
    given := fun d => d.velocity.isSome
    read := fun d => return { d with velocity := some (← float) } },
  { name := "viewport_width"
    given := fun d => d.viewportWidth.isSome
    read := fun d => return { d with viewportWidth := some (← natural "u32" (Nat.pow 2 32)) } },
  { name := "loop_mode"
    given := fun d => d.loopMode.isSome
    read := fun d => return { d with loopMode := some (← variant loopModes) } },
  { name := "max_delta"
    given := fun d => d.maxDelta.isSome
    read := fun d => return { d with maxDelta := some (← float) } },
  { name := "smoothing_window"
    given := fun d => d.smoothing.isSome
    read := fun d => return { d with smoothing := some (← natural "usize" (Nat.pow 2 64)) } },
  { name := "target_fps"
    given := fun d => d.targetRate.isSome
    read := fun d => return { d with targetRate := some (← float) } },
  { name := "max_fps"
    given := fun d => d.maxRate.isSome
    read := fun d => return { d with maxRate := some (← float) } },
  { name := "duration_buffer"
    given := fun d => d.durationBuffer.isSome
    read := fun d => return { d with durationBuffer := some (← float) } }]

def finish (d : ScrollDraft) : ScrollSettings :=
  let e : ScrollSettings := {}
  { velocity := d.velocity.getD e.velocity
    viewportWidth := d.viewportWidth.getD e.viewportWidth
    loopMode := d.loopMode.getD e.loopMode
    maxDelta := d.maxDelta.getD e.maxDelta
    smoothing := d.smoothing.getD e.smoothing
    targetRate := d.targetRate.getD e.targetRate
    maxRate := d.maxRate.getD e.maxRate
    durationBuffer := d.durationBuffer.getD e.durationBuffer }

def shape : RecordShape ScrollDraft ScrollSettings where
  name := "ScrollConfig"
  fields := fields
  empty := {}
  required := 0
  finish := fun d => .ok (finish d)

end ScrollSettings

structure SettingsDraft where
  defaultDuration : Option Float := none
  modeDurations : Option (Table Float) := none
  dynamicCap : Option Float := none
  gracePeriod : Option Float := none
  highRate : Option Float := none
  normalInterval : Option Float := none
  liveCheckInterval : Option Float := none
  health : Option HealthSettings := none
  scroll : Option ScrollSettings := none

namespace Settings

def fields : List (RecordField SettingsDraft) := [
  { name := "default_duration"
    given := fun d => d.defaultDuration.isSome
    read := fun d => return { d with defaultDuration := some (← float) } },
  { name := "mode_durations"
    given := fun d => d.modeDurations.isSome
    read := fun d => return { d with modeDurations := some (← map float Table.insert {}) } },
  { name := "dynamic_duration_cap"
    given := fun d => d.dynamicCap.isSome
    read := fun d => return { d with dynamicCap := some (← float) } },
  { name := "grace_period"
    given := fun d => d.gracePeriod.isSome
    read := fun d => return { d with gracePeriod := some (← float) } },
  { name := "high_rate_fps"
    given := fun d => d.highRate.isSome
    read := fun d => return { d with highRate := some (← float) } },
  { name := "normal_interval"
    given := fun d => d.normalInterval.isSome
    read := fun d => return { d with normalInterval := some (← float) } },
  { name := "live_check_interval"
    given := fun d => d.liveCheckInterval.isSome
    read := fun d => return { d with liveCheckInterval := some (← float) } },
  { name := "health"
    given := fun d => d.health.isSome
    read := fun d => return { d with health := some (← HealthSettings.shape.read) } },
  { name := "scroll"
    given := fun d => d.scroll.isSome
    read := fun d => return { d with scroll := some (← ScrollSettings.shape.read) } }]

def finish (d : SettingsDraft) : Settings :=
  let e : Settings := {}
  { defaultDuration := d.defaultDuration.getD e.defaultDuration
    modeDurations := d.modeDurations.getD e.modeDurations
    dynamicCap := d.dynamicCap.getD e.dynamicCap
    gracePeriod := d.gracePeriod.getD e.gracePeriod
    highRate := d.highRate.getD e.highRate
    normalInterval := d.normalInterval.getD e.normalInterval
    liveCheckInterval := d.liveCheckInterval.getD e.liveCheckInterval
    health := d.health.getD e.health
    scroll := d.scroll.getD e.scroll }

def shape : RecordShape SettingsDraft Settings where
  name := "SchedulerConfig"
  fields := fields
  empty := {}
  required := 0
  finish := fun d => .ok (finish d)

def ofJson (text : String) : Except Fault Settings :=
  shape.read.all text

end Settings

end Marquee
