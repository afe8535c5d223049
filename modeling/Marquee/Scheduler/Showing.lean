import Marquee.Scheduler.Command

/-! A showing: one screen is drawn frame by frame until its time is up or something else wins. -/

namespace Marquee

structure Showing where
  selection : Selection
  airtime : Airtime
  forceClear : Bool
  interval : Span
  started : Instant

namespace Showing

def screen (p : Showing) : Screen :=
  p.selection.screen

def target (p : Showing) : Span :=
  p.airtime.targetSpan

def elapsed (p : Showing) (now : Instant) : Span :=
  Instant.since now p.started

end Showing

namespace Scheduler

variable {γ σ : Type} [HealthGate γ]

def livePreempts (w : World σ) (p : Showing) (s : Scheduler γ σ) : Bool × Scheduler γ σ :=
  if p.selection.source = .onDemand then (false, s)
  else if s.lastLiveCheck.any fun last => Instant.since s.clock last < s.settings.liveCheckSpan then
    (false, s)
  else
    let sought := seekLive w { s with lastLiveCheck := some s.clock }
    match p.selection.source, sought.1 with
    | .rotation _, some live => (true, sought.2.note [.preempted live p.screen])
    | .rotation _, none => (false, sought.2)
    | _, found => (found ≠ some p.screen, sought.2)

def preemptionPending (w : World σ) (p : Showing) (s : Scheduler γ σ) : Bool × Scheduler γ σ :=
  let polled := s.pollOnDemand w
  let expired := polled.2.checkExpiration
  if polled.1 || expired.1 then (true, expired.2) else livePreempts w p expired.2

def draw (w : World σ) (p : Showing) (forceClear : Bool) (s : Scheduler γ σ) :
    Drawing × Scheduler γ σ :=
  let r : DrawReply σ :=
    if s.catalog.hasProvider p.screen.provider then w.draw s.outside s.clock p.screen forceClear
    else ⟨.error (.unavailable p.screen.provider), 0, s.outside⟩
  let drawing := Drawing.ofReply r.reply
  (drawing,
    { s with outside := r.world, clock := s.clock + r.cost }.log (.drawn {
      screen := p.screen
      source := p.selection.source
      forceClear
      time := s.clock
      session := s.session
      drawing }))

def acknowledge (p : Showing) (first : Bool) (s : Scheduler γ σ) : Scheduler γ σ :=
  if first then { s.reportSuccess p.screen.provider with shownThisPass := true } else s

def askCycle (w : World σ) (p : Showing) (s : Scheduler γ σ) : Bool × Scheduler γ σ :=
  if p.airtime.asksForCycle (p.elapsed s.clock) s.rule.grace then
    let provider := p.screen.provider
    if s.catalog.hasProvider provider then
      let asked := s.absorb
        (AirtimeRule.cycleComplete provider (w.answers s.outside s.clock provider).cycleComplete)
      (asked.1, asked.2.log (.cycleAsked provider asked.1 s.clock))
    else (false, s)
  else (false, s)

def judge (w : World σ) (p : Showing) (s : Scheduler γ σ) : Option Ending × Scheduler γ σ :=
  let asked := s.askCycle w p
  match p.airtime.exitDecision (p.elapsed s.clock) s.rule.grace asked.1 with
  | .deadline => (some .completed, asked.2)
  | .cycleComplete => (some .cycleComplete, asked.2)
  | .stay => (none, asked.2)

def maintain (w : World σ) (s : Scheduler γ σ) : Scheduler γ σ :=
  match w.maintenance with
  | none => s
  | some work =>
    let done := work s.outside s.clock
    { s with outside := done.2, clock := s.clock + done.1 }.log (.maintained s.clock)

def rest (w : World σ) (p : Showing) (s : Scheduler γ σ) : Scheduler γ σ :=
  let s := s.maintain w
  s.sleep (s.bounded (min p.interval (p.target - p.elapsed s.clock)))

def follow (w : World σ) (p : Showing) (first : Bool) (drawing : Drawing) (s : Scheduler γ σ) :
    Option Ending × Scheduler γ σ :=
  match drawing, first with
  | .failed error, _ => (some (.failed error), s)
  | .nothing, true => (some .noContent, s)
  | _, _ =>
    let judged := (s.acknowledge p first).judge w p
    match judged.1 with
    | some ending => (some ending, judged.2)
    | none => (none, judged.2.rest w p)

def round (w : World σ) (p : Showing) (first : Bool) (s : Scheduler γ σ) :
    Option Ending × Scheduler γ σ :=
  if s.shouldStop w then (some .interrupted, s)
  else if p.target ≤ p.elapsed s.clock then (some .completed, s)
  else
    let checked := s.preemptionPending w p
    if checked.1 then (some .preempted, checked.2)
    else
      let drawn := checked.2.draw w p (first && p.forceClear)
      drawn.2.follow w p first drawn.1

def rounds (w : World σ) (p : Showing) : Nat → Bool → Scheduler γ σ → Ending × Scheduler γ σ
  | 0, _, s => (.stalled, s)
  | n + 1, first, s =>
    let done := s.round w p first
    match done.1 with
    | some ending => (ending, done.2)
    | none => rounds w p n false done.2

def trackCycle (w : World σ) (screen : Screen) (dynamic : Bool) (s : Scheduler γ σ) :
    Scheduler γ σ :=
  if dynamic then
    if s.lastDynamic = some screen then s
    else
      { s with
        outside := w.restartCycle s.outside screen.provider
        lastDynamic := some screen }.log (.cycleRestarted screen.provider s.clock)
  else { s with lastDynamic := none }

def announce (selection : Selection) (airtime : Airtime) (forceClear : Bool) (s : Scheduler γ σ) :
    Scheduler γ σ :=
  let s := { s with redraw := false }
  if forceClear then
    { s with counters := { s.counters with activations := s.counters.activations + 1 } }.note
      [.showing selection.screen selection.source airtime.target]
  else s

def airtimeFor (w : World σ) (screen : Screen) (s : Scheduler γ σ) : Noted Airtime :=
  let a := w.answers s.outside s.clock screen.provider
  let base := (a.displaySeconds screen.mode).getD (s.settings.baseSeconds screen.mode)
  s.rule.resolve screen.provider a screen.mode base s.settings.defaultDuration

def intervalFor (w : World σ) (screen : Screen) (s : Scheduler γ σ) : Span :=
  let a := w.answers s.outside s.clock screen.provider
  if a.capabilities.highRate then s.settings.highRateInterval
  else s.settings.normalSpan

def openShowing (w : World σ) (selection : Selection) (s : Scheduler γ σ) :
    Showing × Scheduler γ σ :=
  let screen := selection.screen
  let interval := s.intervalFor w screen
  let found := s.absorb (s.airtimeFor w screen)
  let forceClear := s.redraw || s.lastShown ≠ some screen
  let s := (found.2.announce selection found.1 forceClear).log (.opened selection found.1 s.clock)
  let s := s.trackCycle w screen found.1.dynamic
  ({ selection, airtime := found.1, forceClear, interval, started := s.clock },
    { s with
      lastShown := some screen
      rotation := { s.rotation with onDisplay := some screen }
      lastLiveCheck := some s.clock })

/-- Shows the selected screen until the showing ends. Rounds that move the clock are limited by the
target. -/
def present (w : World σ) (selection : Selection) (s : Scheduler γ σ) : Ending × Scheduler γ σ :=
  if s.catalog.hasProvider selection.screen.provider then
    let opened := s.openShowing w selection
    let ended := rounds w opened.1 (opened.1.target + w.patience + 2) true opened.2
    (ended.1, ended.2.log (.closed ended.1 ended.2.clock))
  else
    (.failed (.unavailable
      ("provider '" ++ selection.screen.provider ++ "' is not registered")), s)

end Scheduler

end Marquee
