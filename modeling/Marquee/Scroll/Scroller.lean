import Marquee.Frame.Clock
import Marquee.Frame.Limiter
import Marquee.Scroll.Bitmap
import Marquee.Scroll.Settings
import Marquee.Scroll.Smoother

/-!
The scroller moves wide content through a viewport by elapsed time, so that the speed does not
depend on how often it is driven. Positions are kept in fractions of pixels.
-/

namespace Marquee

open Number

structure Scroller (α : Type) where
  settings : ScrollSettings
  position : α
  contentWidth : Nat
  velocity : α
  smoother : Smoother α
  limiter : FrameLimiter
  clock : FrameClock α
  image : Option Bitmap
  /-- Passes completed since the last reset, counted in 32 bits: after the largest count comes zero. -/
  cycles : UInt32
  halted : Bool

structure ScrollStep (α : Type) where
  position : α
  cycleCompleted : Bool

namespace Scroller

variable {α : Type} [Scalar α]

def new (settings : ScrollSettings) : Noted (Scroller α) := do
  let settings ← settings.repaired
  let limiter ← FrameLimiter.new settings.targetRate settings.maxRate
  let clock ← FrameClock.new settings.maxDelta
  return {
    settings
    position := Scalar.ofNat 0
    contentWidth := 0
    velocity := Scalar.ofFloat settings.velocity
    smoother := Smoother.new settings.smoothing
    limiter
    clock
    image := none
    cycles := 0
    halted := false }

def reset (s : Scroller α) : Scroller α :=
  { s with
    position := Scalar.ofNat 0
    smoother := s.smoother.clear
    limiter := s.limiter.reset
    clock := s.clock.reset
    cycles := 0
    halted := false }

def setImage (s : Scroller α) (image : Bitmap) : Scroller α :=
  reset { s with contentWidth := image.width, image := some image }

def setWidth (s : Scroller α) (width : Nat) : Scroller α :=
  reset { s with contentWidth := width, image := none }

def singleEnd (s : Scroller α) : α :=
  Scalar.greatest (Scalar.ofNat s.contentWidth - Scalar.ofNat s.settings.viewportWidth)
    (Scalar.ofNat 0)

def normalized (s : Scroller α) (position : α) : ScrollStep α :=
  let width := Scalar.ofNat s.contentWidth
  match s.settings.loopMode with
  | .modulo =>
    if Scalar.le width position then
      let rest := Scalar.rem position width
      ⟨if Scalar.le width rest then Scalar.ofNat 0 else rest, true⟩
    else ⟨position, false⟩
  | .continuous =>
    if Scalar.le width position then ⟨Scalar.ofNat 0, true⟩ else ⟨position, false⟩
  | .single =>
    if Scalar.le s.singleEnd position then ⟨s.singleEnd, true⟩ else ⟨position, false⟩

def usableDelta (s : Scroller α) (delta : α) : α :=
  if Scalar.isFinite delta then Scalar.clamp delta (Scalar.ofNat 0) s.clock.maxDelta
  else Scalar.ofNat 0

def advance (s : Scroller α) (delta : α) : ScrollStep α × Scroller α :=
  if s.halted || s.contentWidth = 0 then (⟨s.position, false⟩, s)
  else
    let delta := s.usableDelta delta
    let step := s.normalized (s.position + s.velocity * s.smoother.smoothed delta)
    (step,
      { s with
        smoother := s.smoother.push delta
        position := step.position
        cycles := if step.cycleCompleted then s.cycles + 1 else s.cycles
        halted := step.cycleCompleted && s.settings.loopMode = .single })

def update (s : Scroller α) (now : Instant) : Option (ScrollStep α) × Scroller α :=
  let accepted := s.limiter.accept now
  if accepted.1 then
    let ticked := s.clock.tick now
    let moved := advance { s with limiter := accepted.2, clock := ticked.2 } ticked.1
    (some moved.1, moved.2)
  else (none, { s with limiter := accepted.2 })

def frame (s : Scroller α) : Option (Option Bitmap) :=
  s.image.map fun image =>
    image.visible? s.position s.settings.viewportWidth s.settings.loopMode.wraps

def distance (s : Scroller α) : α :=
  match s.settings.loopMode with
  | .single => s.singleEnd
  | _ => Scalar.ofNat s.contentWidth

def unclampedEstimate (s : Scroller α) : α :=
  let buffer := Scalar.greatest (Scalar.ofFloat s.settings.durationBuffer) (Scalar.ofNat 0)
  s.distance / s.velocity * (Scalar.ofNat 1 + buffer)

/-- The time for one pass in seconds, kept within bounds; none when the lower bound is no number. -/
def estimate? (s : Scroller α) (least greatest : α) : Option α :=
  let greatest := Scalar.greatest greatest least
  if Scalar.le s.velocity (Scalar.ofNat 0) then some greatest
  else if Scalar.le least greatest then
    some (Scalar.clamp s.unclampedEstimate least greatest)
  else none

def isCycleComplete (s : Scroller α) : Bool :=
  0 < s.cycles

end Scroller

end Marquee
