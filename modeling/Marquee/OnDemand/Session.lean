import Marquee.Notice

/-!
On-demand sessions keep one screen on the display, for a bounded time or until they are stopped. The
place where rotation was interrupted is kept for the end of the session.
-/

namespace Marquee

inductive SessionStatus
  | idle
  | active
  | error
  deriving DecidableEq, Repr

def SessionStatus.text : SessionStatus → String
  | idle => "idle"
  | active => "active"
  | error => "error"

structure SessionLimit where
  seconds : Float
  expiresAt : Instant
  deriving DecidableEq

structure RunningSession where
  screen : Screen
  requestedAt : Instant
  requestedAtWall : Float
  limit : Option SessionLimit
  pinned : Bool
  resume : Option Nat
  deriving DecidableEq

structure Session where
  running : Option RunningSession := none
  status : SessionStatus := .idle
  error : Option String := none
  lastEvent : Option String := none
  deriving DecidableEq

structure Snapshot where
  active : Bool := false
  mode : Option ModeId := none
  provider : Option ProviderId := none
  requestedAt : Option Float := none
  expiresAt : Option Float := none
  duration : Option Float := none
  pinned : Bool := false
  status : SessionStatus := .idle
  error : Option String := none
  lastEvent : Option String := none
  remaining : Option Float := none
  deriving DecidableEq

namespace Session

def isActive (s : Session) : Bool :=
  s.running.isSome

def screen? (s : Session) : Option Screen :=
  s.running.map RunningSession.screen

def limit? (s : Session) : Option SessionLimit :=
  s.running.bind RunningSession.limit

def resume? (s : Session) : Option Nat :=
  s.running.bind RunningSession.resume

def requestedAt? (s : Session) : Option Instant :=
  s.running.map RunningSession.requestedAt

def expiresAt? (s : Session) : Option Instant :=
  s.limit?.map SessionLimit.expiresAt

def isPinned (s : Session) : Bool :=
  (s.running.map RunningSession.pinned).getD false

/-- A positive length that is not pinned bounds the session, unless its end lies beyond what the
clock can count. -/
def limitFor (duration : Option Float) (pinned : Bool) (now : Instant) :
    Noted (Option SessionLimit) :=
  match duration with
  | none => pure none
  | some seconds =>
    if pinned || !seconds.isFinite || seconds ≤ 0 then pure none
    else
      match (Span.ofSeconds? seconds).bind (Instant.add? now) with
      | some expiresAt => pure (some { seconds, expiresAt })
      | none => ⟨none, [.durationOutOfRange seconds]⟩

/-- A session that takes over from another keeps the place where rotation was interrupted first. -/
def start (s : Session) (screen : Screen) (duration : Option Float) (pinned : Bool)
    (resume : Option Nat) (now : Instant) (wall : Float) : Noted Session := do
  let limit ← limitFor duration pinned now
  return {
    running := some {
      screen
      requestedAt := now
      requestedAtWall := wall
      limit
      pinned
      resume := if s.isActive then s.resume? else resume }
    status := .active
    error := none
    lastEvent := some "started" }

def clear (s : Session) : Session :=
  { s with running := none }

def finish (s : Session) (event : String) : Session :=
  { s.clear with
    status := .idle
    error := none
    lastEvent := some event }

def breakOff (s : Session) (refusal : Refusal) : Session :=
  { s.clear with
    status := .error
    error := some refusal.code
    lastEvent := some "failed" }

def reject (s : Session) (refusal : Refusal) : Session :=
  { s with
    status := if s.isActive then s.status else .error
    error := some refusal.code
    lastEvent := some "rejected" }

def isExpired (s : Session) (now : Instant) : Bool :=
  match s.limit? with
  | some limit => limit.expiresAt ≤ now
  | none => false

def remaining (s : Session) (now : Instant) : Option Span :=
  if s.isActive then s.expiresAt?.map fun expiry => Instant.since expiry now else some 0

def snapshot (s : Session) (now : Instant) : Snapshot where
  active := s.isActive
  mode := s.screen?.map Screen.mode
  provider := s.screen?.map Screen.provider
  requestedAt := s.running.map RunningSession.requestedAtWall
  expiresAt := s.running.bind fun r => r.limit.map fun limit => r.requestedAtWall + limit.seconds
  duration := s.limit?.map SessionLimit.seconds
  pinned := s.isPinned
  status := s.status
  error := s.error
  lastEvent := s.lastEvent
  remaining := (s.remaining now).map Span.seconds

end Session

end Marquee
