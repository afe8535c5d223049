import Marquee.Scheduler.Showing

namespace Marquee

inductive TickOutcome
  | idle
  | completed (screen : Screen)
  | cycleComplete (screen : Screen)
  | preempted (screen : Screen)
  | noContent (screen : Screen)
  | failed (screen : Screen) (error : ProviderError)
  | skipped (screen : Screen)
  | interrupted
  | stalled (screen : Screen)
  deriving DecidableEq, Repr

namespace Scheduler

variable {γ σ : Type} [HealthGate γ]

def select (w : World σ) (s : Scheduler γ σ) : Option Selection × Scheduler γ σ :=
  match s.session.screen? with
  | some screen => (some ⟨screen, .onDemand⟩, s)
  | none =>
    let sought := s.seekLive w
    match sought.1 with
    | some screen => (some ⟨screen, .live⟩, sought.2)
    | none =>
      (s.rotation.current?.map fun screen => ⟨screen, .rotation s.rotation.index⟩, sought.2)

def finishShowing (w : World σ) (selection : Selection) (s : Scheduler γ σ) : Scheduler γ σ :=
  if selection.source.isRotation then
    let live := s.providerIsLive w selection.screen.provider
    if live.1 then live.2 else live.2.advanceRotation
  else s

def afterFailure (selection : Selection) (error : ProviderError) (s : Scheduler γ σ) :
    Scheduler γ σ :=
  let s :=
    { s with counters := { s.counters with displayFailures := s.counters.displayFailures + 1 } }.note
      [.screenFailed selection.screen error]
  let s := s.reportFailure selection.screen.provider error
  match selection.source with
  | .onDemand => s.failSession error
  | .live => s.skipProvider selection.screen.provider
  | .rotation _ => (s.skipProvider selection.screen.provider).advanceRotation

def conclude (w : World σ) (selection : Selection) (ending : Ending) (s : Scheduler γ σ) :
    TickOutcome × Scheduler γ σ :=
  let screen := selection.screen
  match ending with
  | .completed => (.completed screen, s.finishShowing w selection)
  | .cycleComplete => (.cycleComplete screen, s.finishShowing w selection)
  | .preempted =>
    (.preempted screen,
      { s with counters := { s.counters with preemptions := s.counters.preemptions + 1 } })
  | .interrupted => (.interrupted, s)
  | .stalled => (.stalled screen, s)
  | .noContent =>
    let s := s.reportSuccess screen.provider
    (.noContent screen, if selection.source.isRotation then s.advanceRotation else s.idleSleep)
  | .failed error => (.failed screen error, s.afterFailure selection error)

def idle (s : Scheduler γ σ) : Scheduler γ σ :=
  idleSleep { s with phase := .idle, rotation := { s.rotation with onDisplay := none } }

def isPassedOver (selection : Selection) (s : Scheduler γ σ) : Bool :=
  selection.source.isRotation && HealthGate.skips s.gate s.clock selection.screen.provider

def serve (w : World σ) (selection : Selection) (s : Scheduler γ σ) :
    TickOutcome × Scheduler γ σ :=
  let s := { s with phase := Phase.ofSource selection.source }
  if s.isPassedOver selection then
    (.skipped selection.screen,
      (s.skipProvider selection.screen.provider).advanceRotation.paceAfterPass)
  else
    let ended := s.present w selection
    let concluded := ended.2.conclude w selection ended.1
    (concluded.1, concluded.2.paceAfterPass)

def prepare (w : World σ) (s : Scheduler γ σ) : Scheduler γ σ :=
  (s.pollOnDemand w).2.checkExpiration.2.publish

def tick (w : World σ) (s : Scheduler γ σ) : TickOutcome × Scheduler γ σ :=
  let s := { s with counters := { s.counters with ticks := s.counters.ticks + 1 } }
  if s.shouldStop w then (.interrupted, s)
  else
    let selected := (s.prepare w).select w
    match selected.1 with
    | none => (.idle, selected.2.idle)
    | some selection => selected.2.serve w selection

end Scheduler

end Marquee
