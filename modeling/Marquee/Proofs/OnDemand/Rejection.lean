import Marquee.Proofs.OnDemand.Resolution
import Marquee.Proofs.Scheduler.Polling
import Marquee.Proofs.Script
import Marquee.Proofs.Showing.Watching

/-! A command that is turned down is reported on, and nothing else comes of it. -/

namespace Marquee

def World.silent {σ : Type} (w : World σ) : World σ :=
  { w with arrivals := fun outside _ => ([], outside) }

def Request.Timed (r : Request) : Prop :=
  ∀ seconds, r.duration = some seconds → seconds.isFinite ∧ seconds ≤ 604800

/-- What is wrong with a request. Duration, provider and target are looked at in this order. -/
inductive Catalog.Rejects (c : Catalog) (r : Request) : Refusal → Prop
  | action {text : String} : r.action = .unknown text → Rejects c r (.invalidAction text)
  | endless {seconds : Float} : r.action = .start → r.duration = some seconds →
      seconds.isFinite = false →
      Rejects c r (.invalidPayload ("duration " ++ Number.plainText seconds ++ " is not a number"))
  | long {seconds : Float} : r.action = .start → r.duration = some seconds → seconds.isFinite →
      ¬ seconds ≤ 604800 →
      Rejects c r (.invalidPayload ("duration " ++ Number.plainText seconds ++ " exceeds " ++
        Number.plainText 604800 ++ " seconds"))
  | provider {provider : ProviderId} : r.action = .start → r.Timed → Names r.provider provider →
      c.hasProvider provider = false → Rejects c r (.unknownProvider provider)
  | mode {mode : ModeId} : r.action = .start → r.Timed →
      (∀ provider, Names r.provider provider → c.hasProvider provider) → Names r.mode mode →
      (∀ screen ∈ c.screens, screen.mode ≠ mode) → Rejects c r (.unknownMode mode)
  | pairing {screen : Screen} {provider : ProviderId} : r.action = .start → r.Timed →
      c.hasProvider provider → Names r.mode screen.mode → Names r.provider provider →
      screen ∈ c.screens → screen.provider ≠ provider →
      Rejects c r (.modeProviderMismatch screen.mode provider)
  | nothing : r.action = .start → r.Timed → (∀ mode, ¬ Names r.mode mode) →
      (∀ provider, ¬ Names r.provider provider) → Rejects c r .missingTarget
  | screenless {provider : ProviderId} : r.action = .start → r.Timed → (∀ mode, ¬ Names r.mode mode) →
      Names r.provider provider → c.hasProvider provider →
      (∀ screen ∈ c.screens, screen.provider ≠ provider) → Rejects c r (.unknownProvider provider)

namespace Scheduler

section Grounds

variable {c : Catalog} {r : Request} {refusal : Refusal}

lemma resolveRequest_eq_error (h : resolveRequest c r = .error refusal) :
    checkDuration r.duration = .error refusal ∨
    checkDuration r.duration = .ok () ∧
      (checkProvider c (nonEmpty r.provider) = .error refusal ∨
        checkProvider c (nonEmpty r.provider) = .ok () ∧
          target c (nonEmpty r.mode) (nonEmpty r.provider) = .error refusal) := by
  unfold resolveRequest at h
  cases hd : checkDuration r.duration <;> cases hp : checkProvider c (nonEmpty r.provider) <;>
    simp_all [bind, Except.bind]

lemma rejects_duration (start : r.action = .start) (h : checkDuration r.duration = .error refusal) :
    c.Rejects r refusal := by
  cases hd : r.duration with
  | none =>
    rw [hd] at h
    cases h
  | some seconds =>
    rw [hd, checkDuration] at h
    have week : (604800 : Float).isFinite := Span.isFinite_longest
    split at h
    next endless =>
      cases h
      exact .endless start hd (by simpa using endless)
    next finite =>
      have finite : seconds.isFinite := by simpa using finite
      split at h
      next long =>
        cases h
        exact .long start hd finite fun le => (Number.not_lt_iff_le finite week).mpr le long
      next => cases h

lemma rejects_provider (start : r.action = .start) (timed : r.Timed)
    (h : checkProvider c (nonEmpty r.provider) = .error refusal) : c.Rejects r refusal := by
  cases hp : nonEmpty r.provider with
  | none =>
    rw [hp] at h
    cases h
  | some provider =>
    rw [hp, checkProvider] at h
    split at h
    next => cases h
    next unknown =>
      cases h
      exact .provider start timed (nonEmpty_eq_some_iff.mp hp) (by simpa using unknown)

lemma rejects_target (start : r.action = .start) (timed : r.Timed)
    (known : ∀ provider, Names r.provider provider → c.hasProvider provider)
    (h : target c (nonEmpty r.mode) (nonEmpty r.provider) = .error refusal) :
    c.Rejects r refusal := by
  unfold target at h
  split at h
  next _ mode named =>
    have mode_named := nonEmpty_eq_some_iff.mp named
    split at h
    next missing =>
      cases h
      exact .mode start timed known mode_named (by simpa [Catalog.screen?] using missing)
    next => cases h
    next screen provider found whose =>
      have provider_named := nonEmpty_eq_some_iff.mp whose
      have mem := List.mem_of_find?_eq_some found
      obtain rfl : screen.mode = mode := by simpa using List.find?_some found
      split at h
      next => cases h
      next other =>
        cases h
        exact .pairing start timed (known provider provider_named) mode_named provider_named mem other
  next unnamed nobody =>
    cases h
    exact .nothing start timed (nonEmpty_eq_none_iff.mp unnamed) (nonEmpty_eq_none_iff.mp nobody)
  next provider unnamed named =>
    have provider_named := nonEmpty_eq_some_iff.mp named
    split at h
    next => cases h
    next none =>
      cases h
      exact .screenless start timed (nonEmpty_eq_none_iff.mp unnamed) provider_named
        (known provider provider_named) (by simpa [Catalog.firstScreenOf?] using none)

lemma TurnsDown.rejects (h : TurnsDown c r refusal) : c.Rejects r refusal := by
  rcases h with ⟨start, error⟩ | ⟨text, unknown, rfl⟩
  · rcases resolveRequest_eq_error error with duration | ⟨timed, provider | ⟨known, target⟩⟩
    · exact rejects_duration start duration
    · exact rejects_provider start (checkDuration_ok_iff.mp timed) provider
    · refine rejects_target start (checkDuration_ok_iff.mp timed) (fun provider named => ?_) target
      exact checkProvider_ok_iff.mp known provider (nonEmpty_eq_some_iff.mpr named)
  · exact .action unknown

end Grounds

variable {γ σ : Type}

/-- The scheduler as if the request that is waiting had not been sent. -/
def spared (w : World σ) (s : Scheduler γ σ) : Scheduler γ σ :=
  (s.receive w).takeRequest.2

structure Reported (w : World σ) (s : Scheduler γ σ) (session : Session) (entries : Journal)
    (s' : Scheduler γ σ) : Prop where
  frame : s' = { s with
    session, outside := s'.outside, channel := s'.channel, board := s'.board, journal := s'.journal }
  outside : s'.outside = (s.spared w).outside
  channel : s'.channel = (s.spared w).channel
  board : s'.board = s.board.map fun board => board.publish (session.snapshot s.clock)
  journal : s'.journal =
    (s.board.map fun _ => .published (session.snapshot s.clock) s.clock).toList ++ (entries ++ s.journal)

variable (w : World σ) (s : Scheduler γ σ)

lemma spared_eq :
    s.spared w = { s with outside := (s.spared w).outside, channel := (s.spared w).channel } := by
  rw [spared, takeRequest]
  split <;> rfl

lemma spared_session : (s.spared w).session = s.session :=
  takeRequest_session (s.receive w)

lemma publish_reported {s' : Scheduler γ σ} {session : Session} {entries : Journal}
    (h : s' = { s.spared w with session, journal := entries ++ s.journal }) :
    s.Reported w session entries s'.publish := by
  rw [spared_eq] at h
  subst h
  cases hb : s.board with
  | none =>
    refine ⟨?_, ?_, ?_, ?_, ?_⟩ <;> simp [publish, hb]
  | some board =>
    refine ⟨?_, ?_, ?_, ?_, ?_⟩ <;> simp [publish, hb, log]

variable {w s} {r : Request} {refusal : Refusal}

lemma heard_eq : s.heard w r = { s.spared w with journal := .taken r s.clock :: s.journal } := by
  have same : (s.spared w).journal = s.journal := takeRequest_journal (s.receive w)
  rw [← same]
  rfl

lemma takeRequest_emptied (s : Scheduler γ σ) {c : Channel} (h : s.takeRequest.2.channel = some c) :
    c.slot = none := by
  rw [takeRequest] at h
  split at h
  next none => cases none.symm.trans h
  next channel _ =>
    obtain rfl := Option.some.inj h
    rw [Channel.poll]
    split
    next empty => exact empty
    next => split <;> rfl

lemma takeRequest_of_empty {s : Scheduler γ σ} (h : ∀ c, s.channel = some c → c.slot = none) :
    s.takeRequest = (none, s) := by
  rw [takeRequest]
  split
  next => rfl
  next c hc =>
    have empty : c.poll = (none, c) := by rw [Channel.poll, h c hc]
    rw [empty]
    dsimp only
    rw [← hc]

lemma receive_silent (w : World σ) (s : Scheduler γ σ) : s.receive w.silent = s := by
  have same : (s.channel.map fun c => c.postAll []) = s.channel := Option.map_id_apply
  change { s with channel := s.channel.map fun c => c.postAll [] } = s
  rw [same]

lemma spared_pollOnDemand (w : World σ) (s : Scheduler γ σ) :
    (s.spared w).pollOnDemand w.silent = (false, s.spared w) := by
  have none : (s.spared w).takeRequest = (none, s.spared w) :=
    takeRequest_of_empty fun c => takeRequest_emptied (s.receive w)
  rw [pollOnDemand, receive_silent, none]

variable [HealthGate γ] {s' : Scheduler γ σ} {session : Session} {entries : Journal}

lemma preemptionPending_fst (w : World σ) (s : Scheduler γ σ) (p : Showing)
    (h : s.pollOnDemand w = (false, s')) :
    (s.preemptionPending w p).1 = (s'.session.isExpired s'.clock ||
      s'.looks p && p.yieldsTo (s'.seekLive w).1) := by
  rw [preemptionPending, h]
  dsimp only
  rw [checkExpiration_eq]
  cases s'.session.isExpired s'.clock with
  | true => rfl
  | false => exact livePreempts_fst w s' p

lemma Reported.preemptionPending_fst (h : s.Reported w session entries s')
    (running : session.running = s.session.running) (polled : s.pollOnDemand w = (false, s'))
    (p : Showing) :
    (s.preemptionPending w p).1 = ((s.spared w).preemptionPending w.silent p).1 := by
  rw [Scheduler.preemptionPending_fst w s p polled,
    Scheduler.preemptionPending_fst w.silent (s.spared w) p (spared_pollOnDemand w s), spared_eq, h.frame,
    h.outside]
  have expired : session.isExpired s.clock = s.session.isExpired s.clock := by
    rw [Session.isExpired, Session.limit?, running]
    rfl
  dsimp only
  rw [expired]
  rfl

/-- A request that is taken and not granted leaves everything alone but the report on it: the showing goes
on, and so does a session with all that belongs to it. Of a stop without a session nothing is told. -/
theorem rejected_command_is_only_reported (w : World σ) (s : Scheduler γ σ) (r : Request)
    (registered : s.catalog.Registered) (taken : (s.receive w).takeRequest.1 = some r)
    (rejected : ¬ (r.action = .start ∧ s.catalog.Accepts r))
    (idle : r.action = .stop → s.session.isActive = false) :
    (s.pollOnDemand w).1 = false ∧
    (∀ p, (s.preemptionPending w p).1 = ((s.spared w).preemptionPending w.silent p).1) ∧
    (r.action ≠ .stop → ∃ refusal, s.catalog.Rejects r refusal ∧
      s.Reported w
        { s.session with
          status := if s.session.isActive then s.session.status else .error
          error := some refusal.code
          lastEvent := some "rejected" }
        [.notice (.refused r.id refusal), .taken r s.clock] (s.pollOnDemand w).2) ∧
    (r.action = .stop → s.Reported w s.session [.taken r s.clock] (s.pollOnDemand w).2) := by
  have hp := pollOnDemand_polled w s
  obtain ⟨answer, s', polled⟩ : ∃ answer s', s.pollOnDemand w = (answer, s') := ⟨_, _, rfl⟩
  rw [polled] at hp ⊢
  cases hp with
  | nothing none => cases none.symm.trans taken
  | started other screen again start ok =>
    obtain rfl : other = r := Option.some.inj (again.symm.trans taken)
    exact absurd ⟨start, (exists_resolveRequest_ok_iff registered).mp ⟨screen, ok⟩⟩ rejected
  | stopped other again stop active =>
    obtain rfl : other = r := Option.some.inj (again.symm.trans taken)
    rw [idle stop] at active
    cases active
  | turnedDown other refusal again down =>
    obtain rfl : other = r := Option.some.inj (again.symm.trans taken)
    have reported : s.Reported w (s.session.reject refusal)
        [.notice (.refused other.id refusal), .taken other s.clock]
        ((s.heard w other).reject other refusal).publish := by
      refine publish_reported w s ?_
      rw [heard_eq, reject, note]
      dsimp only
      rw [spared_session]
      rfl
    refine ⟨rfl, reported.preemptionPending_fst rfl polled, fun _ => ⟨refusal, down.rejects, reported⟩, ?_⟩
    intro stop
    rcases down with ⟨start, -⟩ | ⟨text, unknown, -⟩
    · cases start.symm.trans stop
    · cases unknown.symm.trans stop
  | ignored other again stop inactive =>
    obtain rfl : other = r := Option.some.inj (again.symm.trans taken)
    have reported : s.Reported w s.session [.taken other s.clock] (s.heard w other).publish := by
      refine publish_reported w s ?_
      rw [heard_eq, ← spared_session]
      rfl
    exact ⟨rfl, reported.preemptionPending_fst rfl polled, fun other => absurd stop other, fun _ => reported⟩

def mismatched : Request :=
  { Request.startMode "2" "clock" with provider := some "scores" }

def vainRequest : Script :=
  { polls := [[.startMode "1" "clock"], [mismatched]] }

theorem session_outlasts_rejected_command :
    ∃ refusal, vainRequest.setup.catalog.Rejects mismatched refusal ∧
      refusal.code = "mode_provider_mismatch" ∧
      (vainRequest.play [.poll, .poll]).session = { (vainRequest.play [.poll]).session with
        status := .active, error := some refusal.code, lastEvent := some "rejected" } := by
  have registered : vainRequest.setup.catalog.Registered :=
    .register "clock" ["clock"] (.register "scores" ["scores_recent", "scores_live"] .empty)
  have rejected : ¬ (mismatched.action = .start ∧ vainRequest.setup.catalog.Accepts mismatched) := by
    rintro ⟨-, accepts⟩
    obtain ⟨screen, ok⟩ := (exists_resolveRequest_ok_iff registered).mpr accepts
    have error : resolveRequest vainRequest.setup.catalog mismatched =
        .error (.modeProviderMismatch "clock" "scores") := by rfl
    cases ok.symm.trans error
  obtain ⟨-, -, told, -⟩ := rejected_command_is_only_reported Script.world (vainRequest.play [.poll])
    mismatched registered (by rfl) rejected nofun
  obtain ⟨refusal, rejects, reported⟩ := told nofun
  have session := congrArg Scheduler.session reported.frame
  refine ⟨refusal, rejects, ?_, session⟩
  have code := congrArg Session.error session
  exact (Option.some.inj code).symm

end Scheduler

end Marquee
