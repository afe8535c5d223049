import Marquee.Time

namespace Marquee

structure ManualClock where
  wallAtZero : Float := 1700000000
  now : Instant := 0

namespace ManualClock

def advance (c : ManualClock) (span : Span) : ManualClock :=
  { c with now := c.now + span }

def advanceSeconds (c : ManualClock) (seconds : Float) : ManualClock :=
  c.advance (Span.ofSeconds seconds)

def sleep (c : ManualClock) (span : Span) : ManualClock :=
  c.advance span

def wallTime (c : ManualClock) : Float :=
  Instant.wallTime c.wallAtZero c.now

end ManualClock

end Marquee
