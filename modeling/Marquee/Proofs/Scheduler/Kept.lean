import Marquee.Proofs.Scheduler.Marks

/-! What a move of each kind leaves as it was, and what it leaves behind in the journal. -/

namespace Marquee

def Event.leftBy : Event → List MoveKind
  | .notice _ => [.noted, .started, .left, .refused, .succeeded, .failed, .opened]
  | .opened _ _ _ | .cycleRestarted _ _ => [.opened]
  | .drawn _ => [.drew]
  | .cycleAsked _ _ _ | .liveSought _ _ | .liveAsked _ _ _ => [.inquired]
  | .maintained _ => [.maintained]
  | .slept _ _ => [.slept]
  | .published _ _ => [.published]
  | .taken _ _ => [.took]
  | .sessionBegun _ _ _ => [.started]
  | .sessionOver _ _ _ => [.left]
  | .rotated _ => [.rotated]
  | .succeeded _ _ => [.succeeded]
  | .failed _ _ _ => [.failed]
  | .closed _ _ => [.closed]

namespace Scheduler

def timeKinds : List MoveKind :=
  [.drew, .maintained, .slept, .elapsed]

def sessionKinds : List MoveKind :=
  [.started, .left, .refused]

def gateKinds : List MoveKind :=
  [.succeeded, .failed]

def rotationKinds : List MoveKind :=
  [.left, .rotated, .setAside, .blanked, .opened]

def redrawKinds : List MoveKind :=
  [.left, .rotated, .opened]

def outsideKinds : List MoveKind :=
  [.received, .opened, .drew, .maintained, .elapsed]

variable {γ σ : Type} {s s' : Scheduler γ σ}

structure Kept (kind : MoveKind) (s s' : Scheduler γ σ) : Prop where
  catalog : s'.catalog = s.catalog
  settings : s'.settings = s.settings
  rule : s'.rule = s.rule
  clock : kind ∉ timeKinds → s'.clock = s.clock
  outside : kind ∉ outsideKinds → s'.outside = s.outside
  deadline : kind ∉ [.elapsed] → s'.deadline = s.deadline
  board : kind ∉ [.published] → s'.board = s.board
  session : kind ∉ sessionKinds → s'.session = s.session
  gate : kind ∉ gateKinds → s'.gate = s.gate
  rotation : kind ∉ rotationKinds → s'.rotation = s.rotation
  redraw : kind ∉ redrawKinds → s'.redraw = s.redraw
  lastShown : kind ∉ [.opened] → s'.lastShown = s.lastShown
  lastDynamic : kind ∉ [.opened] → s'.lastDynamic = s.lastDynamic
  shownThisPass : kind ∉ [.rotated, .acknowledged] → s'.shownThisPass = s.shownThisPass
  idlePass : kind ∉ [.rotated, .relaxed] → s'.idlePass = s.idlePass
  lastLiveCheck : kind ∉ [.looked, .opened] → s'.lastLiveCheck = s.lastLiveCheck
  counters : kind ∉ [.counted, .rotated, .opened] → s'.counters = s.counters

variable [HealthGate γ] {w : World σ} {kind : MoveKind}

lemma Move.kept (h : Move w kind s s') : Kept kind s s' := by
  cases h
  case' emptied =>
    unfold takeRequest
    split
  case' started screen r ok =>
    obtain ⟨ns, ns', session, running, hstart, -⟩ := startSession_eq s screen r
    rw [hstart]
  case' left ended n leaves =>
    obtain ⟨ns, rotation, hleave⟩ := leaveSession_marks s ended n
    rw [hleave]
  case' published =>
    unfold publish
    split
  case' rotated =>
    unfold advanceRotation
    dsimp only
    split
  case' opened selection =>
    obtain ⟨restarts, ns, ns', outside, counters, lastDynamic, hopen, -⟩ :=
      openShowing_eq w selection s
    rw [hopen]
  case' maintained =>
    unfold maintain
    split
  all_goals
    constructor <;>
      first | rfl | exact fun _ => rfl | exact fun hk => absurd (by decide) hk

lemma Move.entries (h : Move w kind s s') : ∃ new, s'.journal = new ++ s.journal ∧
    ∀ e ∈ new, kind ∈ e.leftBy ∧ ∀ t, e.until? = some t → t ≤ s'.clock := by
  cases h with
  | noted s ns => exact ⟨_, rfl, by simp [Event.leftBy, Event.until?]⟩
  | inquired s e inquiry now =>
    refine ⟨[e], rfl, ?_⟩
    cases e <;> simp_all [Event.isInquiry, Event.leftBy, log]
  | emptied s =>
    rw [takeRequest]
    split <;> exact ⟨[], rfl, by simp⟩
  | started s screen r =>
    obtain ⟨ns, ns', session, running, hstart, -⟩ := startSession_eq s screen r
    rw [hstart]
    refine ⟨.sessionBegun session s.rotation s.clock ::
      ((ns'.map Event.notice).reverse ++ (ns.map Event.notice).reverse), by simp [note, log], ?_⟩
    simp [Event.leftBy, Event.until?, note, log, or_imp, forall_and]
  | left s ended n =>
    obtain ⟨ns, rotation, hleave⟩ := leaveSession_marks s ended n
    rw [hleave]
    refine ⟨.sessionOver ended rotation s.clock :: (ns.map Event.notice).reverse, rfl, ?_⟩
    simp [Event.leftBy, Event.until?, note, log]
  | published s =>
    rw [publish]
    split
    · exact ⟨[], rfl, by simp⟩
    · exact ⟨[_], rfl, by simp [Event.leftBy, Event.until?, log]⟩
  | rotated s =>
    rw [advanceRotation]
    dsimp only
    split
    · exact ⟨[], rfl, by simp⟩
    · exact ⟨[_], rfl, by simp [Event.leftBy, Event.until?]⟩
  | succeeded s provider =>
    refine ⟨.succeeded provider s.clock ::
      ((HealthGate.succeeded s.gate s.clock provider).notices.map Event.notice).reverse, rfl, ?_⟩
    simp [Event.leftBy, Event.until?, reportSuccess, absorb, note, log]
  | failed s provider error =>
    refine ⟨.failed provider error s.clock ::
      ((HealthGate.failed s.gate s.clock provider error).notices.map Event.notice).reverse, rfl, ?_⟩
    simp [Event.leftBy, Event.until?, reportFailure, absorb, note, log]
  | opened s selection =>
    obtain ⟨restarts, ns, ns', outside, counters, lastDynamic, hopen, hr⟩ :=
      openShowing_eq w selection s
    rw [hopen]
    refine ⟨restarts ++ .opened selection (s.airtimeFor w selection.screen).value s.clock ::
      ((ns'.map Event.notice).reverse ++ (ns.map Event.notice).reverse), by simp [note], ?_⟩
    rw [List.forall_mem_append]
    constructor
    · intro e he
      rw [hr e he]
      simp [Event.leftBy, Event.until?]
    · simp [Event.leftBy, Event.until?, or_imp, forall_and]
  | drew s p forceClear => exact ⟨[_], rfl, by simp [Event.leftBy, Event.until?, draw, log]⟩
  | maintained s =>
    rw [maintain]
    split
    · exact ⟨[], rfl, by simp⟩
    · exact ⟨[_], rfl, by simp [Event.leftBy, Event.until?, log]⟩
  | refused s | took s | slept s | closed s =>
    exact ⟨[_], rfl, by simp [Event.leftBy, Event.until?, log, sleep, reject]⟩
  | _ => exact ⟨[], rfl, by simp⟩

end Scheduler

end Marquee
