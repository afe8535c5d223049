import Marquee.Settings.Repair

namespace Marquee

inductive LoopMode
  | continuous
  | single
  | modulo
  deriving DecidableEq, Repr

namespace LoopMode

def text : LoopMode → String
  | continuous => "continuous"
  | single => "single"
  | modulo => "modulo"

def wraps : LoopMode → Bool
  | single => false
  | _ => true

end LoopMode

structure ScrollSettings where
  velocity : Float := 50
  viewportWidth : Nat := 128
  loopMode : LoopMode := .modulo
  maxDelta : Float := 0.1
  smoothing : Nat := 4
  targetRate : Float := 125
  maxRate : Float := 0
  durationBuffer : Float := 0.1

def ScrollSettings.repaired (s : ScrollSettings) : Noted ScrollSettings := do
  let velocity ← Settings.nonNegativeOr s.velocity 0 "scroll velocity"
  let maxDelta ← Settings.positiveOr s.maxDelta 0.1 "scroll.max_delta"
  let targetRate ← Settings.rateOr s.targetRate 125 "scroll.target_fps"
  let maxRate ← Settings.ceilingOrNone s.maxRate "scroll.max_fps"
  let durationBuffer ← Settings.nonNegativeOr s.durationBuffer 0.1 "scroll.duration_buffer"
  return { s with velocity, maxDelta, targetRate, maxRate, durationBuffer }

end Marquee
