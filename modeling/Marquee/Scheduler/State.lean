import Marquee.Health
import Marquee.Live
import Marquee.OnDemand.Board
import Marquee.Rotation
import Marquee.Scheduler.Event
import Marquee.Scheduler.World

/-! The state of a scheduler, and the small moves on it that all others are made of. -/

namespace Marquee

inductive Phase
  | idle
  | rotating
  | live
  | onDemand
  deriving DecidableEq, Repr

def Phase.text : Phase → String
  | idle => "idle"
  | rotating => "rotating"
  | live => "live"
  | onDemand => "on-demand"

def Phase.ofSource : Source → Phase
  | .onDemand => onDemand
  | .live => live
  | .rotation _ => rotating

/--
A scheduler with a health gate of type `γ` in a world of type `σ`. Its clock moves only by sleeps and
by the time that drawing and background work take.
-/
structure Scheduler (γ σ : Type) where
  catalog : Catalog
  settings : Settings
  rule : AirtimeRule
  gate : γ
  outside : σ
  clock : Instant := 0
  wallAtZero : Float := 1700000000
  channel : Option Channel := none
  board : Option Board := none
  rotation : Rotation
  session : Session := {}
  phase : Phase := .idle
  counters : Counters := {}
  deadline : Option Instant := none
  lastShown : Option Screen := none
  lastDynamic : Option Screen := none
  redraw : Bool := true
  shownThisPass : Bool := false
  idlePass : Bool := false
  lastLiveCheck : Option Instant := none
  journal : Journal := []

namespace Scheduler

variable {γ σ : Type}

def new (catalog : Catalog) (settings : Settings) (gate : Settings → γ) (outside : σ) :
    Noted (Scheduler γ σ) := do
  let settings ← settings.repaired
  Noted.remark (.ready catalog.screens.length catalog.rotationOrder.length)
  let rule ← AirtimeRule.new settings
  return {
    catalog
    settings
    rule
    gate := gate settings
    outside
    rotation := { screens := catalog.screens } }

def log (s : Scheduler γ σ) (e : Event) : Scheduler γ σ :=
  { s with journal := e :: s.journal }

def note (s : Scheduler γ σ) (ns : List Notice) : Scheduler γ σ :=
  { s with journal := (ns.map Event.notice).reverse ++ s.journal }

def absorb {α : Type} (s : Scheduler γ σ) (a : Noted α) : α × Scheduler γ σ :=
  (a.value, s.note a.notices)

def wallTime (s : Scheduler γ σ) : Float :=
  Instant.wallTime s.wallAtZero s.clock

def publish (s : Scheduler γ σ) : Scheduler γ σ :=
  match s.board with
  | none => s
  | some board =>
    let snapshot := s.session.snapshot s.clock
    { s with board := some (board.publish snapshot) }.log (.published snapshot s.clock)

def shouldStop (w : World σ) (s : Scheduler γ σ) : Bool :=
  w.stopRequested s.outside s.clock || s.deadline.any fun d => d ≤ s.clock

def bounded (s : Scheduler γ σ) (nap : Span) : Span :=
  match s.deadline with
  | some d => min nap (Instant.since d s.clock)
  | none => nap

def sleep (s : Scheduler γ σ) (nap : Span) : Scheduler γ σ :=
  { s with clock := s.clock + nap }.log (.slept s.clock nap)

def idleSleep (s : Scheduler γ σ) : Scheduler γ σ :=
  s.sleep (s.bounded s.settings.normalSpan)

def barred [HealthGate γ] (s : Scheduler γ σ) (provider : ProviderId) : Bool :=
  s.rotation.isSkipped provider || HealthGate.skips s.gate s.clock provider

def seekLive [HealthGate γ] (w : World σ) (s : Scheduler γ σ) : Option Screen × Scheduler γ σ :=
  let found := s.absorb (Live.find s.catalog (w.answers s.outside s.clock) s.barred)
  (found.1, found.2.log (.liveSought found.1 s.clock))

def providerIsLive (w : World σ) (s : Scheduler γ σ) (provider : ProviderId) :
    Bool × Scheduler γ σ :=
  if s.catalog.hasProvider provider then
    let asked := s.absorb (Live.isLive provider (w.answers s.outside s.clock provider))
    (asked.1, asked.2.log (.liveAsked provider asked.1 s.clock))
  else (false, s)

def reportSuccess [HealthGate γ] (s : Scheduler γ σ) (provider : ProviderId) : Scheduler γ σ :=
  let told := s.absorb (HealthGate.succeeded s.gate s.clock provider)
  { told.2 with gate := told.1 }.log (.succeeded provider s.clock)

def reportFailure [HealthGate γ] (s : Scheduler γ σ) (provider : ProviderId)
    (error : ProviderError) : Scheduler γ σ :=
  let told := s.absorb (HealthGate.failed s.gate s.clock provider error)
  { told.2 with gate := told.1 }.log (.failed provider error s.clock)

def advanceRotation (s : Scheduler γ σ) : Scheduler γ σ :=
  let rotation := s.rotation.advance
  let s :=
    if rotation.screens.isEmpty then s
    else
      { s with
        counters := { s.counters with rotationAdvances := s.counters.rotationAdvances + 1 }
        redraw := true }.log (.rotated rotation)
  let wrapped : Bool := rotation.passes ≠ s.rotation.passes
  { s with
    rotation
    idlePass := if wrapped then !s.shownThisPass else s.idlePass
    shownThisPass := if wrapped then false else s.shownThisPass }

def skipProvider (s : Scheduler γ σ) (provider : ProviderId) : Scheduler γ σ :=
  { s with rotation := s.rotation.skip provider }

def paceAfterPass (s : Scheduler γ σ) : Scheduler γ σ :=
  if s.idlePass then { s with idlePass := false }.idleSleep else s

end Scheduler

end Marquee
