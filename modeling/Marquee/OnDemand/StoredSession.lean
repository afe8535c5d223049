import Marquee.OnDemand.Session

/-!
Sessions as they are stored: field by field, with nothing in the type to keep the fields in step. The
operations do that, and a session that came about through them is the stored form of a `Session`.
-/

namespace Marquee

structure StoredSession where
  active : Bool := false
  screen : Option Screen := none
  requestedAt : Option Instant := none
  requestedAtWall : Option Float := none
  expiresAt : Option Instant := none
  duration : Option Float := none
  pinned : Bool := false
  status : SessionStatus := .idle
  error : Option String := none
  lastEvent : Option String := none
  resume : Option Nat := none
  deriving DecidableEq

namespace StoredSession

-- The status, the error and the last event are for the caller to set.
def clear (s : StoredSession) : StoredSession :=
  { s with
    active := false
    screen := none
    requestedAt := none
    requestedAtWall := none
    expiresAt := none
    duration := none
    pinned := false
    resume := none }

def start (s : StoredSession) (screen : Screen) (duration : Option Float) (pinned : Bool)
    (resume : Option Nat) (now : Instant) (wall : Float) : Noted StoredSession := do
  let limit ← Session.limitFor duration pinned now
  return { s with
    active := true
    screen := some screen
    requestedAt := some now
    requestedAtWall := some wall
    expiresAt := limit.map SessionLimit.expiresAt
    duration := limit.map SessionLimit.seconds
    pinned
    status := .active
    error := none
    lastEvent := some "started"
    resume := if s.active then s.resume else resume }

def finish (s : StoredSession) (event : String) : Option Nat × StoredSession :=
  (s.resume, { s.clear with
    status := .idle
    error := none
    lastEvent := some event })

def breakOff (s : StoredSession) (refusal : Refusal) : Option Nat × StoredSession :=
  (s.resume, { s.clear with
    status := .error
    error := some refusal.code
    lastEvent := some "failed" })

def reject (s : StoredSession) (refusal : Refusal) : StoredSession :=
  { s with
    status := if s.active then s.status else .error
    error := some refusal.code
    lastEvent := some "rejected" }

def isExpired (s : StoredSession) (now : Instant) : Bool :=
  s.active && s.expiresAt.any fun expiry => expiry ≤ now

def remaining (s : StoredSession) (now : Instant) : Option Span :=
  if s.active then s.expiresAt.map fun expiry => Instant.since expiry now else some 0

def snapshot (s : StoredSession) (now : Instant) : Snapshot where
  active := s.active
  mode := s.screen.map Screen.mode
  provider := s.screen.map Screen.provider
  requestedAt := s.requestedAtWall
  expiresAt := s.requestedAtWall.bind fun wall => s.duration.map fun seconds => wall + seconds
  duration := s.duration
  pinned := s.pinned
  status := s.status
  error := s.error
  lastEvent := s.lastEvent
  remaining := (s.remaining now).map Span.seconds

end StoredSession

def Session.stored (s : Session) : StoredSession where
  active := s.isActive
  screen := s.screen?
  requestedAt := s.requestedAt?
  requestedAtWall := s.running.map RunningSession.requestedAtWall
  expiresAt := s.expiresAt?
  duration := s.limit?.map SessionLimit.seconds
  pinned := s.isPinned
  status := s.status
  error := s.error
  lastEvent := s.lastEvent
  resume := s.resume?

end Marquee
