import Marquee.Settings.Repair

namespace Marquee

structure FrameLimiter where
  targetRate : Float
  /-- Zero for no ceiling. -/
  maxRate : Float
  lastFrame : Option Instant
  dropped : Nat

namespace FrameLimiter

def defaultTargetRate : Float := 125

def new (targetRate maxRate : Float) : Noted FrameLimiter := do
  let targetRate ← Settings.rateOr targetRate defaultTargetRate "target_fps"
  let maxRate ← Settings.ceilingOrNone maxRate "max_fps"
  return { targetRate, maxRate, lastFrame := none, dropped := 0 }

def minInterval (l : FrameLimiter) : Option Span :=
  if 0 < l.maxRate then some (Span.ofSeconds (1 / l.maxRate)) else none

def targetInterval (l : FrameLimiter) : Span :=
  Span.ofSeconds (1 / l.targetRate)

def tooSoon (l : FrameLimiter) (now : Instant) : Bool :=
  match l.minInterval, l.lastFrame with
  | some interval, some last => Instant.since now last < interval
  | _, _ => false

def accept (l : FrameLimiter) (now : Instant) : Bool × FrameLimiter :=
  if l.tooSoon now then (false, { l with dropped := l.dropped + 1 })
  else (true, { l with lastFrame := some now })

def reset (l : FrameLimiter) : FrameLimiter :=
  { l with lastFrame := none, dropped := 0 }

end FrameLimiter

end Marquee
