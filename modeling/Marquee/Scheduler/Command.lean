import Marquee.Scheduler.State

namespace Marquee.Scheduler

variable {γ σ : Type}

def checkDuration : Option Float → Except Refusal Unit
  | none => .ok ()
  | some seconds =>
    if !seconds.isFinite then
      .error (.invalidPayload ("duration " ++ Number.plainText seconds ++ " is not a number"))
    else if Span.longestSeconds < seconds then
      .error (.invalidPayload ("duration " ++ Number.plainText seconds ++ " exceeds " ++
        Number.plainText Span.longestSeconds ++ " seconds"))
    else .ok ()

def nonEmpty (name : Option String) : Option String :=
  name.filter fun n => n ≠ ""

def checkProvider (c : Catalog) : Option ProviderId → Except Refusal Unit
  | none => .ok ()
  | some provider =>
    if c.hasProvider provider then .ok () else .error (.unknownProvider provider)

def target (c : Catalog) (mode : Option ModeId) (provider : Option ProviderId) :
    Except Refusal Screen :=
  match mode, provider with
  | some mode, provider =>
    match c.screen? mode, provider with
    | none, _ => .error (.unknownMode mode)
    | some s, none => .ok s
    | some s, some provider =>
      if s.provider = provider then .ok s else .error (.modeProviderMismatch mode provider)
  | none, none => .error .missingTarget
  | none, some provider =>
    match c.firstScreenOf? provider with
    | some s => .ok s
    | none => .error (.unknownProvider provider)

def resolveRequest (c : Catalog) (r : Request) : Except Refusal Screen := do
  checkDuration r.duration
  checkProvider c (nonEmpty r.provider)
  target c (nonEmpty r.mode) (nonEmpty r.provider)

def termOf (r : Request) : SessionTerm :=
  if r.pinned then .pinned
  else
    match r.duration with
    | some seconds => if 0 < seconds then .bounded seconds else .untilStopped
    | none => .untilStopped

def startSession (s : Scheduler γ σ) (screen : Screen) (r : Request) : Scheduler γ σ :=
  let s := s.note [.sessionStarted screen (termOf r)]
  let resume := if s.rotation.screens.isEmpty then none else some s.rotation.index
  let started :=
    s.absorb (s.session.start screen r.duration r.pinned resume s.clock s.wallTime)
  { started.2 with session := started.1 }.log (.sessionBegun started.1 s.rotation s.clock)

def restoreRotation (s : Scheduler γ σ) : Option Nat → Scheduler γ σ
  | none => s
  | some index =>
    let restored := s.absorb (s.rotation.restore index)
    { restored.2 with rotation := restored.1.2 }

def leaveSession (s : Scheduler γ σ) (ended : Session) (notice : Notice) : Scheduler γ σ :=
  let left := ({ s with session := ended }.note [notice]).restoreRotation s.session.resume?
  { left with redraw := true }.log (.sessionOver left.session left.rotation left.clock)

def endSession (s : Scheduler γ σ) (event : String) : Bool × Scheduler γ σ :=
  if s.session.isActive then
    (true, s.leaveSession (s.session.finish event) (.sessionEnded event))
  else (false, s)

def failSession (s : Scheduler γ σ) (error : ProviderError) : Scheduler γ σ :=
  (s.leaveSession (s.session.breakOff (.displayFailed error.message)) (.sessionBroken error)).publish

def reject (s : Scheduler γ σ) (r : Request) (refusal : Refusal) : Scheduler γ σ :=
  let s := s.note [.refused r.id refusal]
  { s with session := s.session.reject refusal }

def obey (s : Scheduler γ σ) (r : Request) : Bool × Scheduler γ σ :=
  match r.action with
  | .start =>
    match resolveRequest s.catalog r with
    | .ok screen => (true, s.startSession screen r)
    | .error refusal => (false, s.reject r refusal)
  | .stop => s.endSession "stopped"
  | .unknown action => (false, s.reject r (.invalidAction action))

def receive (w : World σ) (s : Scheduler γ σ) : Scheduler γ σ :=
  let arrived := w.arrivals s.outside s.clock
  { s with
    outside := arrived.2
    channel := s.channel.map fun c => c.postAll arrived.1 }

def takeRequest (s : Scheduler γ σ) : Option Request × Scheduler γ σ :=
  match s.channel with
  | none => (none, s)
  | some c =>
    let polled := c.poll
    (polled.1, { s with channel := some polled.2 })

def pollOnDemand (w : World σ) (s : Scheduler γ σ) : Bool × Scheduler γ σ :=
  let taken := (s.receive w).takeRequest
  match taken.1 with
  | none => (false, taken.2)
  | some r =>
    let obeyed := (taken.2.log (.taken r s.clock)).obey r
    (obeyed.1, obeyed.2.publish)

def checkExpiration (s : Scheduler γ σ) : Bool × Scheduler γ σ :=
  if s.session.isExpired s.clock then
    let ended := s.endSession "expired"
    (ended.1, ended.2.publish)
  else (false, s)

end Marquee.Scheduler
