import Marquee.Number.Binary64

/-! Spans and instants in whole nanoseconds, and their conversion from and to seconds. -/

namespace Marquee

/-- A length of time in nanoseconds. -/
abbrev Span := Nat

/-- A point of the monotonic clock: nanoseconds since its time zero. -/
abbrev Instant := Nat

namespace Span

def perSecond : Nat := 1000000000

def longestSeconds : Float := 604800

def nearest (seconds : Float) : Span :=
  Number.Binary64.nearest .toEven perSecond seconds

/-- Seconds as a span between nothing and seven days; what is not a positive number counts as
nothing. -/
def ofSeconds (seconds : Float) : Span :=
  if seconds.isNaN || seconds ≤ 0 then 0
  else nearest (if longestSeconds < seconds then longestSeconds else seconds)

def ofSeconds? (seconds : Float) : Option Span :=
  if seconds.isFinite && 0 ≤ seconds then
    let span := nearest seconds
    if span < Nat.pow 2 64 * perSecond then some span else none
  else none

def seconds (span : Span) : Float :=
  (span / perSecond).toFloat + (span % perSecond).toFloat / 1000000000

end Span

namespace Instant

/-- The clock counts fewer than `2 ^ 63` seconds. -/
def limit : Nat := Nat.pow 2 63 * Span.perSecond

def add? (t : Instant) (span : Span) : Option Instant :=
  if t + span < limit then some (t + span) else none

def since (t earlier : Instant) : Span :=
  t - earlier

def wallTime (wallAtZero : Float) (now : Instant) : Float :=
  wallAtZero + Span.seconds now

end Instant

end Marquee
