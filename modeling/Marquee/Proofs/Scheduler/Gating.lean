import Marquee.Proofs.Health
import Marquee.Proofs.Live
import Marquee.Proofs.Scheduler.Clock
import Marquee.Proofs.Script

/-! Providers that fail again and again are left alone for a while: until the cooldown is over they are
shown on demand only. -/

namespace Marquee

def Journal.strikes (provider : ProviderId) : Journal → List Instant
  | [] => []
  | .failed other _ t :: j => if provider = other then t :: strikes provider j else strikes provider j
  | .succeeded other _ :: j => if provider = other then [] else strikes provider j
  | _ :: j => strikes provider j

def Event.isReport : Event → Bool
  | .succeeded _ _ | .failed _ _ _ => true
  | _ => false

lemma Event.isReport_of_leftBy {e : Event} {kind : MoveKind} (hk : kind ∉ Scheduler.gateKinds)
    (h : kind ∈ e.leftBy) : e.isReport = false := by
  cases e with
  | succeeded | failed =>
    rw [List.mem_singleton.mp h] at hk
    exact absurd (by decide) hk
  | _ => rfl

lemma Journal.strikes_append {provider : ProviderId} {new j : Journal}
    (hnew : ∀ e ∈ new, e.isReport = false) : strikes provider (new ++ j) = strikes provider j := by
  induction new with
  | nil => rfl
  | cons e new ih =>
    have rest := ih fun e he => hnew e (List.mem_cons_of_mem _ he)
    have quiet := hnew e List.mem_cons_self
    cases e with
    | succeeded | failed => cases quiet
    | _ => exact rest

lemma Journal.strikes_note {provider : ProviderId} {j : Journal} (ns : List Notice) :
    strikes provider ((ns.map Event.notice).reverse ++ j) = strikes provider j :=
  strikes_append (by simp [Event.isReport])

def Event.Gated (threshold : Nat) (cooldown : Span) (e : Event) (before : Journal) : Prop :=
  match e with
  | .opened selection _ t => selection.source ≠ .onDemand →
      ¬ Breaker.Suspends threshold cooldown (before.strikes selection.screen.provider) t
  | _ => True

lemma Event.gated_of_leftBy {threshold : Nat} {cooldown : Span} {e : Event} {kind : MoveKind}
    (hk : kind ≠ .opened) (h : kind ∈ e.leftBy) (before : Journal) :
    e.Gated threshold cooldown before := by
  cases e with
  | opened => exact absurd (List.mem_singleton.mp h) hk
  | _ => trivial

namespace Scheduler

section

variable {γ σ : Type} [HealthGate γ] {w : World σ} {s s' : Scheduler γ σ} {kinds : List MoveKind}
  {a b : Stage × Scheduler γ σ}

lemma Moves.gate_eq (h : Moves w kinds s s') (hk : ∀ kind ∈ kinds, kind ∉ gateKinds) :
    s'.gate = s.gate :=
  h.preserve (R := fun a b => b.gate = a.gate) (fun _ => rfl) (fun _ _ _ hab hbc => hbc.trans hab)
    fun kind hm _ _ move => move.kept.gate (hk kind hm)

def Admitted : Stage → Scheduler γ σ → Prop
  | .chosen selection, s => selection.source = .live →
    HealthGate.skips s.gate s.clock selection.screen.provider = false
  | _, _ => True

lemma select_admitted {selection : Selection} (h : (s.select w).1 = some selection) :
    Admitted (.chosen selection) (s.select w).2 := by
  intro live
  have moves := select_moves w s
  rw [moves.gate_eq (by decide), moves.clock_eq (by decide)]
  cases select_selected w s h with
  | onDemand | rotation => cases live
  | live screen _ found =>
    have notBarred := (Live.search_found found).2.1
    rw [barred, Bool.or_eq_false_iff] at notBarred
    exact notBarred.2

lemma Step.admitted (h : Step w a b) : Admitted b.1 b.2 := by
  cases h with
  | chose s selection _ chosen => exact select_admitted chosen
  | _ => trivial

lemma not_skips_of_opened {selection : Selection} (kept : s.isPassedOver selection = false)
    (admitted : Admitted (.chosen selection) s) (h : selection.source ≠ .onDemand) :
    HealthGate.skips s.gate s.clock selection.screen.provider = false := by
  cases hs : selection.source with
  | onDemand => exact absurd hs h
  | live => exact admitted hs
  | rotation index => simpa [isPassedOver, hs, Source.isRotation] using kept

lemma conclude_ne_skipped {selection : Selection} {ending : Ending} {screen : Screen} :
    (s.conclude w selection ending).1 ≠ .skipped screen := by
  cases ending <;> nofun

lemma tick_skipped {screen : Screen} (h : (s.tick w).1 = .skipped screen) :
    HealthGate.skips s.gate s.clock screen.provider := by
  rw [tick_eq] at h
  split at h
  · cases h
  split at h
  · cases h
  next selection chosen =>
    rw [serve_eq] at h
    split at h
    next passed =>
      cases h
      have moves := chosen_moves w s
      rw [← moves.gate_eq (by decide), ← moves.clock_eq (by decide)]
      exact (Bool.and_eq_true_iff.mp passed).2
    · exact absurd h conclude_ne_skipped

end

variable {σ : Type} {w : World σ} {s s' : Scheduler Breaker σ} {threshold : Nat} {cooldown : Span}
  {kind : MoveKind}

structure Guarded (threshold : Nat) (cooldown : Span) (s : Scheduler Breaker σ) : Prop where
  threshold_eq : s.gate.threshold = threshold
  cooldown_eq : s.gate.cooldown = cooldown
  tracks : ∀ provider, s.gate.Tracks provider (s.journal.strikes provider)
  gated : s.journal.Always (Event.Gated threshold cooldown)

lemma Guarded.skips_iff (hs : s.Guarded threshold cooldown) (provider : ProviderId) (t : Instant) :
    s.gate.skips t provider ↔
      Breaker.Suspends threshold cooldown (s.journal.strikes provider) t := by
  rw [(hs.tracks provider).skips_iff, hs.threshold_eq, hs.cooldown_eq]

lemma guarded_setup (u : Setup Breaker σ) (h : u.gate = fun settings => Breaker.new settings.health) :
    u.scheduler.Guarded (max u.settings.health.failureThreshold 1)
      (Span.ofSeconds u.scheduler.settings.health.cooldown) := by
  have gate : u.scheduler.gate = Breaker.new u.scheduler.settings.health := congrFun h _
  have threshold : u.scheduler.settings.health.failureThreshold =
      (Settings.repairedThreshold u.settings.health.failureThreshold).value := rfl
  refine ⟨?_, ?_, fun provider => ?_, trivial⟩
  · rw [gate, Breaker.new, threshold, Settings.repairedThreshold]
    split
    next zero => rw [zero]; rfl
    next => rfl
  · rw [gate, Breaker.new]
  · rw [gate]
    exact Breaker.tracks_new _ provider

lemma reportSuccess_strikes (s : Scheduler Breaker σ) (other provider : ProviderId) :
    (s.reportSuccess other).journal.strikes provider =
      if provider = other then [] else s.journal.strikes provider := by
  change (if _ then _ else Journal.strikes provider (_ ++ s.journal)) = _
  rw [Journal.strikes_note]

lemma reportFailure_strikes (s : Scheduler Breaker σ) (other provider : ProviderId)
    (error : ProviderError) :
    (s.reportFailure other error).journal.strikes provider =
      if provider = other then s.clock :: s.journal.strikes provider
      else s.journal.strikes provider := by
  change (if _ then _ :: Journal.strikes provider (_ ++ s.journal) else
    Journal.strikes provider (_ ++ s.journal)) = _
  rw [Journal.strikes_note]

lemma Move.tracks (h : Move w kind s s') (reachable : s.gate.threshold ≤ Breaker.mostFailures)
    (hs : ∀ provider, s.gate.Tracks provider (s.journal.strikes provider)) (provider : ProviderId) :
    s'.gate.Tracks provider (s'.journal.strikes provider) := by
  by_cases hk : kind ∈ gateKinds
  · cases h with
    | succeeded s other =>
      rw [reportSuccess_strikes]
      split
      next same =>
        rw [same]
        exact Breaker.tracks_succeeded s.gate other
      next different => exact (hs provider).succeeded_of_ne different
    | failed s other error =>
      rw [reportFailure_strikes]
      split
      next same =>
        rw [same]
        exact (hs other).failed reachable
      next different => exact (hs provider).failed_of_ne different
    | _ => simp [gateKinds] at hk
  · obtain ⟨new, hj, left⟩ := h.entries
    rw [h.kept.gate hk, hj,
      Journal.strikes_append fun e he => Event.isReport_of_leftBy hk (left e he).1]
    exact hs provider

lemma Move.gate_settings (h : Move w kind s s') :
    s'.gate.threshold = s.gate.threshold ∧ s'.gate.cooldown = s.gate.cooldown := by
  by_cases hk : kind ∈ gateKinds
  · cases h with
    | succeeded s other => exact ⟨Breaker.threshold_succeeded, Breaker.cooldown_succeeded⟩
    | failed s other error => exact ⟨rfl, rfl⟩
    | _ => simp [gateKinds] at hk
  · rw [h.kept.gate hk]
    exact ⟨rfl, rfl⟩

lemma Move.guarded (h : Move w kind s s') (hk : kind ≠ .opened)
    (reachable : threshold ≤ Breaker.mostFailures) (hs : s.Guarded threshold cooldown) :
    s'.Guarded threshold cooldown := by
  obtain ⟨sameThreshold, sameCooldown⟩ := h.gate_settings
  refine ⟨sameThreshold.trans hs.threshold_eq, sameCooldown.trans hs.cooldown_eq,
    h.tracks (hs.threshold_eq ▸ reachable) hs.tracks, ?_⟩
  obtain ⟨new, hj, left⟩ := h.entries
  rw [hj]
  exact hs.gated.append fun e he => Event.gated_of_leftBy hk (left e he).1

lemma Moves.guarded {kinds : List MoveKind} (h : Moves w kinds s s') (hk : .opened ∉ kinds)
    (reachable : threshold ≤ Breaker.mostFailures) (hs : s.Guarded threshold cooldown) :
    s'.Guarded threshold cooldown :=
  h.keep (fun _ hm _ _ move => move.guarded (ne_of_mem_of_not_mem hm hk) reachable) hs

lemma Guarded.openShowing {selection : Selection} (hs : s.Guarded threshold cooldown)
    (reachable : threshold ≤ Breaker.mostFailures)
    (admitted : selection.source ≠ .onDemand →
      s.gate.skips s.clock selection.screen.provider = false) :
    (s.openShowing w selection).2.Guarded threshold cooldown := by
  have tracks := (Move.opened (w := w) s selection).tracks (hs.threshold_eq ▸ reachable) hs.tracks
  obtain ⟨restarts, ns, ns', outside, counters, lastDynamic, hopen, hr⟩ :=
    openShowing_eq w selection s
  have noted : ((s.note ns).note ns').Guarded threshold cooldown :=
    ((Moves.single (.noted (w := w) s ns)).andThen (.single (.noted _ ns'))).guarded (by decide)
      reachable hs
  rw [hopen] at tracks ⊢
  refine ⟨hs.threshold_eq, hs.cooldown_eq, tracks, Journal.Always.append ?_ ⟨?_, noted.gated⟩⟩
  · intro e he j
    rw [hr e he]
    trivial
  · intro chosen suspended
    have skips := (noted.skips_iff selection.screen.provider s.clock).mpr suspended
    exact absurd skips (Bool.eq_false_iff.mp (admitted chosen))

lemma Step.guarded {a b : Stage × Scheduler Breaker σ} (h : Step w a b) (he : EntitledAt a.1 a.2)
    (reachable : threshold ≤ Breaker.mostFailures) (admitted : Admitted a.1 a.2)
    (hs : a.2.Guarded threshold cooldown) : b.2.Guarded threshold cooldown := by
  by_cases ho : opens a.1 b.1
  · cases h with
    | opened s selection kept =>
      exact hs.openShowing reachable (not_skips_of_opened kept admitted)
    | _ => cases ho
  · exact (h.unopened (by simpa using ho) he).guarded (by decide) reachable hs

lemma perform_guarded (op : Operation σ) (reachable : threshold ≤ Breaker.mostFailures)
    (hs : s.Guarded threshold cooldown) : (s.perform w op).Guarded threshold cooldown := by
  cases op with
  | tick =>
    exact ((tick_steps w s).invariant_of_entitled
      (fun stage s' => Admitted stage s' ∧ s'.Guarded threshold cooldown)
      (fun _ _ step he h => ⟨step.admitted, step.guarded he reachable h.1 h.2⟩) trivial
      ⟨trivial, hs⟩).2
  | poll => exact (pollOnDemand_moves w s).guarded (by decide) reachable hs
  | expire => exact (checkExpiration_moves w s).guarded (by decide) reachable hs
  | advance => exact (Move.rotated (w := w) s).guarded (by decide) reachable hs
  | meanwhile span outside deadline =>
    exact (Move.elapsed (w := w) s span outside deadline).guarded (by decide) reachable hs

/-- With a breaker at the gate neither rotation nor live content opens a showing for a provider whose
failures since its last success have reached the threshold, the last of them less than a cooldown ago. It
is for that reason only that a tick passes over a provider. Counters of failures have 32 bits. -/
theorem suspended_provider_is_passed_over (u : Setup Breaker σ) (w : World σ)
    (gate : u.gate = fun settings => Breaker.new settings.health)
    (reachable : u.settings.health.failureThreshold ≤ Breaker.mostFailures)
    (ops : List (Operation σ)) :
    let s := u.scheduler.performAll w ops
    let threshold := max u.settings.health.failureThreshold 1
    let cooldown := Span.ofSeconds u.scheduler.settings.health.cooldown
    (∀ (later before : Journal) selection airtime t,
      s.journal = later ++ .opened selection airtime t :: before → selection.source ≠ .onDemand →
        ¬ Breaker.Suspends threshold cooldown (before.strikes selection.screen.provider) t) ∧
    ∀ screen, (s.tick w).1 = .skipped screen →
      Breaker.Suspends threshold cooldown (s.journal.strikes screen.provider) s.clock := by
  intro s threshold cooldown
  have counts : threshold ≤ Breaker.mostFailures := Nat.max_le.mpr ⟨reachable, by decide⟩
  have guarded : s.Guarded threshold cooldown :=
    performAll_keeps (fun op _ _ hs => perform_guarded op counts hs) (guarded_setup u gate)
  refine ⟨?_, ?_⟩
  · intro later before selection airtime t hj
    have gated := guarded.gated
    rw [hj] at gated
    exact gated.of_split
  · intro screen skipped
    exact (guarded.skips_iff screen.provider s.clock).mp (tick_skipped skipped)

def brokenScores : Setup Breaker Script where
  catalog :=
    { providers := ["scores", "clock"]
      screens := [⟨"scores", "scores"⟩, ⟨"clock", "clock"⟩] }
  settings := { defaultDuration := 1, health := { failureThreshold := 1, cooldown := 2 } }
  gate settings := Breaker.new settings.health
  outside := { broken := [⟨"scores", "scores"⟩] }

def brokenScores.ticked (count : Nat) : Scheduler Breaker Script :=
  brokenScores.scheduler.performAll Script.world (List.replicate count .tick)

theorem broken_scores_rest_for_cooldown :
    ((brokenScores.ticked 2).tick Script.world).1 = .skipped ⟨"scores", "scores"⟩ ∧
    Breaker.Suspends 1 2000000000 ((brokenScores.ticked 2).journal.strikes "scores") 1000000000 ∧
    ∃ (later before : Journal) (airtime : Airtime), (brokenScores.ticked 5).journal =
        later ++ .opened ⟨⟨"scores", "scores"⟩, .rotation 0⟩ airtime 2000000000 :: before ∧
      before.strikes "scores" = [0] ∧
      ¬ Breaker.Suspends 1 2000000000 (before.strikes "scores") 2000000000 := by
  have skipped : ((brokenScores.ticked 2).tick Script.world).1 = .skipped ⟨"scores", "scores"⟩ := by
    decide +kernel
  have cooldown : Span.ofSeconds brokenScores.scheduler.settings.health.cooldown = 2000000000 := by
    decide +kernel
  have law (count : Nat) := suspended_provider_is_passed_over brokenScores Script.world rfl (by decide)
    (List.replicate count .tick)
  rw [cooldown] at law
  have clock : (brokenScores.ticked 2).clock = 1000000000 := by decide +kernel
  have suspended : Breaker.Suspends 1 2000000000 ((brokenScores.ticked 2).journal.strikes "scores")
      (brokenScores.ticked 2).clock := (law 2).2 ⟨"scores", "scores"⟩ skipped
  rw [clock] at suspended
  refine ⟨skipped, suspended, ?_⟩
  let j := (brokenScores.ticked 5).journal
  obtain ⟨⟨-, airtime, -⟩, opened, rfl, rfl⟩ : ∃ opening ∈ j.at? 5 Event.opening?,
      opening.1 = ⟨⟨"scores", "scores"⟩, .rotation 0⟩ ∧ opening.2.2 = 2000000000 := by
    decide +kernel
  let before : Journal := j.drop 6
  have strikes : before.strikes "scores" = [0] := by decide +kernel
  have hj := Journal.split_at_opening opened
  have tried := (law 5).1 _ _ _ airtime _ hj nofun
  exact ⟨_, _, airtime, hj, strikes, tried⟩

end Scheduler

end Marquee
