import Marquee.Number.Scalar
import Marquee.Settings.Repair

namespace Marquee

open Number

def Number.Scalar.seconds {α : Type} [Scalar α] (span : Span) : α :=
  Scalar.ofNat (span / Span.perSecond) +
    Scalar.ofNat (span % Span.perSecond) / Scalar.ofNat Span.perSecond

structure FrameClock (α : Type) where
  lastTick : Option Instant
  maxDelta : α
  rate : α
  frames : Nat

namespace FrameClock

variable {α : Type} [Scalar α]

def defaultMaxDelta : Float := 0.1

def start (maxDelta : α) : FrameClock α where
  lastTick := none
  maxDelta
  rate := Scalar.ofNat 0
  frames := 0

def new (maxDelta : Float) : Noted (FrameClock α) := do
  let maxDelta ← Settings.positiveOr maxDelta defaultMaxDelta "max_delta"
  return start (Scalar.ofFloat maxDelta)

def averaged (rate raw : α) : α :=
  if Scalar.lt (Scalar.ofNat 0) raw then
    let observed := Scalar.ofNat 1 / raw
    if Scalar.isZero rate then observed
    else Scalar.ofFloat 0.1 * observed + (Scalar.ofNat 1 - Scalar.ofFloat 0.1) * rate
  else rate

def tick (c : FrameClock α) (now : Instant) : α × FrameClock α :=
  match c.lastTick with
  | none => (Scalar.ofNat 0, { c with lastTick := some now, frames := c.frames + 1 })
  | some last =>
    let raw : α := Scalar.seconds (Instant.since now last)
    (Scalar.least raw c.maxDelta,
      { c with lastTick := some now, frames := c.frames + 1, rate := averaged c.rate raw })

def reset (c : FrameClock α) : FrameClock α :=
  start c.maxDelta

end FrameClock

end Marquee
