import Marquee.Proofs.Live
import Marquee.Proofs.Rotation.Anchor
import Marquee.Proofs.Script

/-! Rotation makes one step at the end of a showing of its own and none otherwise: a session hands it
back where it found it. -/

namespace Marquee

/-- After a showing of rotation that came to this outcome rotation goes on, but a full showing is held
by live content. -/
def TickOutcome.GoesOn (held : Prop) : TickOutcome → Prop
  | .skipped _ | .noContent _ | .failed _ _ => True
  | .completed _ | .cycleComplete _ => ¬ held
  | _ => False

namespace Scheduler

variable {γ σ : Type} {s s₁ s₂ : Scheduler γ σ} {provider : ProviderId}

structure Stayed (s s' : Scheduler γ σ) : Prop where
  index : s'.rotation.index = s.rotation.index
  passes : s'.rotation.passes = s.rotation.passes
  advances : s'.rotation.advances = s.rotation.advances
  journal : s'.journal.countP Event.isRotated = s.journal.countP Event.isRotated

/-- Rotation has made exactly one step, the provider set aside before it or not. -/
structure Advanced (provider : ProviderId) (s s' : Scheduler γ σ) : Prop where
  place : s'.rotation.place = s.rotation.advance.place ∨
    s'.rotation.place = (s.rotation.skip provider).advance.place
  advances : s'.rotation.advances = s.rotation.advances + 1
  journal : s'.journal.countP Event.isRotated = s.journal.countP Event.isRotated + 1

def ClaimsLive (w : World σ) (s : Scheduler γ σ) (provider : ProviderId) : Prop :=
  let a := w.answers s.outside s.clock provider
  s.catalog.hasProvider provider ∧ a.capabilities.livePriority ∧ a.livePriority = .ok true ∧
    a.liveContent = .ok true

/-- A selection that rotation made has had its turn when the tick ends. -/
def HadTurn [HealthGate γ] (w : World σ) (s : Scheduler γ σ) (selection : Selection) : Prop :=
  let ended := (((s.chosen w).2.turnedTo selection).present w selection).2
  (s.chosen w).1 = some selection ∧ selection.source.isRotation ∧
    (s.tick w).1.GoesOn (ended.ClaimsLive w selection.screen.provider)

lemma providerIsLive_iff {w : World σ} :
    (s.providerIsLive w provider).1 ↔ s.ClaimsLive w provider := by
  unfold providerIsLive ClaimsLive
  split
  next registered =>
    simp only [registered, true_and]
    exact Live.isLive_iff
  next unregistered => simp [unregistered]

namespace Unmoved

lemma countP_isRotated (h : Unmoved Event.isRotated s s₁) :
    s₁.journal.countP Event.isRotated = s.journal.countP Event.isRotated := by
  obtain ⟨new, hj, hnew⟩ := h.journal
  have hnone : new.countP Event.isRotated = 0 := by
    rw [List.countP_eq_zero]
    intro e he
    simp [hnew e he]
  rw [hj, List.countP_append, hnone, Nat.zero_add]

lemma stayed (h : Unmoved Event.isRotated s s₁) : Stayed s s₁ := by
  have hplace := h.place
  simp only [Rotation.place, Rotation.mk.injEq] at hplace
  exact ⟨hplace.2.1, hplace.2.2.2.2.2, hplace.2.2.2.2.1, h.countP_isRotated⟩

end Unmoved

namespace Stayed

lemma trans (h : Stayed s s₁) (h' : Stayed s₁ s₂) : Stayed s s₂ :=
  ⟨h'.index.trans h.index, h'.passes.trans h.passes, h'.advances.trans h.advances,
    h'.journal.trans h.journal⟩

lemma of_skip (s : Scheduler γ σ) (provider : ProviderId) : Stayed s (s.skipProvider provider) :=
  ⟨Rotation.index_skip _ _, Rotation.passes_skip _ _, Rotation.advances_skip _ _, rfl⟩

end Stayed

namespace Advanced

lemma of_advance (provider : ProviderId) (h : s.rotation.index < s.rotation.screens.length) :
    Advanced provider s s.advanceRotation := by
  have hne := Rotation.not_isEmpty_of_lt h
  refine ⟨.inl rfl, Rotation.advances_advance hne, ?_⟩
  rw [advanceRotation_journal, if_neg hne, List.countP_cons_of_pos rfl]

lemma of_skip (h : s.rotation.index < s.rotation.screens.length) :
    Advanced provider s (s.skipProvider provider).advanceRotation := by
  have hlt : (s.skipProvider provider).rotation.index <
      (s.skipProvider provider).rotation.screens.length := by
    simpa [skipProvider] using h
  have step := of_advance provider hlt
  exact ⟨.inr rfl, step.advances.trans (congrArg (· + 1) (Rotation.advances_skip _ _)),
    step.journal⟩

lemma after (h : Advanced provider s s₁) (h' : Unmoved Event.isRotated s₁ s₂) :
    Advanced provider s s₂ :=
  ⟨h.place.imp h'.place.trans h'.place.trans, h'.stayed.advances.trans h.advances,
    h'.countP_isRotated.trans h.journal⟩

lemma before (h : Unmoved Event.isRotated s s₁) (h' : Advanced provider s₁ s₂) :
    Advanced provider s s₂ := by
  have advance : s₁.rotation.advance.place = s.rotation.advance.place := by
    rw [Rotation.place_advance, h.place, ← Rotation.place_advance]
  have skip : (s₁.rotation.skip provider).advance.place =
      (s.rotation.skip provider).advance.place := by
    rw [Rotation.place_advance, Rotation.place_skip, h.place, ← Rotation.place_skip,
      ← Rotation.place_advance]
  exact ⟨h'.place.imp (·.trans advance) (·.trans skip),
    h'.advances.trans (congrArg (· + 1) h.stayed.advances),
    h'.journal.trans (congrArg (· + 1) h.countP_isRotated)⟩

end Advanced

structure Turn (up : Prop) (provider : ProviderId) (s s' : Scheduler γ σ) : Prop where
  anchored : s'.Anchored
  advanced : up → Advanced provider s s'
  stayed : ¬ up → Stayed s s'

namespace Turn

variable {up : Prop}

lemma of_unmoved (h : s₁.Anchored ∧ Unmoved Event.isRotated s s₁) (hup : ¬ up) :
    Turn up provider s s₁ :=
  ⟨h.1, fun h => absurd h hup, fun _ => h.2.stayed⟩

lemma of_advanced (ha : s₁.Anchored) (h : Advanced provider s s₁) (hup : up) :
    Turn up provider s s₁ :=
  ⟨ha, fun _ => h, fun h => absurd hup h⟩

lemma before (h : Unmoved Event.isRotated s s₁) (h' : Turn up provider s₁ s₂) :
    Turn up provider s s₂ :=
  ⟨h'.anchored, fun hup => .before h (h'.advanced hup), fun hup => h.stayed.trans (h'.stayed hup)⟩

lemma after (h : Turn up provider s s₁) (h' : s₂.Anchored ∧ Unmoved Event.isRotated s₁ s₂) :
    Turn up provider s s₂ :=
  ⟨h'.1, fun hup => (h.advanced hup).after h'.2, fun hup => (h.stayed hup).trans h'.2.stayed⟩

end Turn

variable [HealthGate γ] {w : World σ} {kind : MoveKind} {kinds : List MoveKind}

variable {selection : Selection}

lemma finishShowing_turn (hs : s.Anchored) (he : s.Entitled selection)
    (hr : selection.source.isRotation → s.rotation.screens ≠ []) :
    Turn (selection.source.isRotation ∧ ¬ s.ClaimsLive w selection.screen.provider)
      selection.screen.provider s (s.finishShowing w selection) := by
  have moves := providerIsLive_moves w s selection.screen.provider
  have asked := moves.unmoved hs (by decide)
  rw [finishShowing]
  split
  next rotation =>
    dsimp only
    split
    next live => exact .of_unmoved asked fun hup => hup.2 (providerIsLive_iff.mp live)
    next idle =>
      have hrunning := he.running_eq_none (Source.ne_onDemand rotation)
      have calm := moves.calm (by decide)
      have hlt := asked.1.placed (calm.screens ▸ hr rotation)
      exact .before asked.2 (.of_advanced
        (asked.1.advanceRotation (calm.running.trans hrunning))
        (.of_advance _ hlt) ⟨rotation, fun h => idle (providerIsLive_iff.mpr h)⟩)
  next other => exact .of_unmoved ⟨hs, .refl s⟩ fun hup => other hup.1

lemma afterFailure_turn (w : World σ) (error : ProviderError) (hs : s.Anchored)
    (he : s.Entitled selection)
    (hr : selection.source.isRotation → s.rotation.screens ≠ []) :
    Turn selection.source.isRotation selection.screen.provider s
      (s.afterFailure selection error) := by
  have moves := blamed_moves w selection error s
  have calm := moves.calm (by decide)
  have blamed := moves.unmoved hs (by decide)
  have skipped := blamed.1.skipProvider selection.screen.provider
  rw [afterFailure_eq]
  cases hsource : selection.source with
  | onDemand =>
    exact .of_unmoved ((failSession_moves w error he hsource).unmoved hs (by decide))
      (by simp [Source.isRotation])
  | live =>
    exact ⟨skipped, by simp [Source.isRotation],
      fun _ => blamed.2.stayed.trans (.of_skip _ selection.screen.provider)⟩
  | rotation index =>
    have rotation : selection.source.isRotation := by rw [hsource]; rfl
    have hrunning := he.running_eq_none (Source.ne_onDemand rotation)
    have hlt := blamed.1.placed (calm.screens ▸ hr rotation)
    exact .before blamed.2 (.of_advanced
      (skipped.advanceRotation (calm.running.trans hrunning)) (.of_skip hlt) rfl)

lemma conclude_turn (ending : Ending) (hs : s.Anchored)
    (he : ending ≠ .preempted → s.Entitled selection)
    (hr : selection.source.isRotation → s.rotation.screens ≠ []) :
    Turn (selection.source.isRotation ∧
        (s.conclude w selection ending).1.GoesOn (s.ClaimsLive w selection.screen.provider))
      selection.screen.provider s (s.conclude w selection ending).2 := by
  cases ending with
  | completed => exact finishShowing_turn hs (he (by simp)) hr
  | cycleComplete => exact finishShowing_turn hs (he (by simp)) hr
  | preempted =>
    have counted : Moves w [.counted] s (s.conclude w selection .preempted).2 :=
      .single (.counted s _)
    exact .of_unmoved (counted.unmoved hs (by decide)) And.right
  | interrupted => exact .of_unmoved ⟨hs, .refl s⟩ And.right
  | stalled => exact .of_unmoved ⟨hs, .refl s⟩ And.right
  | noContent =>
    have moves : Moves w [.succeeded] s (s.reportSuccess selection.screen.provider) :=
      .single (.succeeded s _)
    have calm := moves.calm (by decide)
    have praised := moves.unmoved hs (by decide)
    rw [conclude]
    dsimp only
    split
    next rotation =>
      have hrunning := (he (by simp)).running_eq_none (Source.ne_onDemand rotation)
      have hlt := praised.1.placed (calm.screens ▸ hr rotation)
      exact .before praised.2 (.of_advanced
        (praised.1.advanceRotation (calm.running.trans hrunning)) (.of_advance _ hlt)
        ⟨rotation, trivial⟩)
    next other =>
      have slept := (idleSleep_moves w _).unmoved praised.1 (by decide)
      exact .of_unmoved ⟨slept.1, praised.2.trans slept.2⟩ fun hup => other hup.1
  | failed error =>
    have turn := afterFailure_turn w error hs (he (by simp)) hr
    exact ⟨turn.anchored, fun hup => turn.advanced hup.1,
      fun hup => turn.stayed fun rotation => hup ⟨rotation, trivial⟩⟩

lemma serve_turn (hs : s.Anchored) (he : s.Entitled selection)
    (hr : selection.source.isRotation → s.rotation.screens ≠ []) :
    Turn (selection.source.isRotation ∧ (s.serve w selection).1.GoesOn
        (((s.turnedTo selection).present w selection).2.ClaimsLive w selection.screen.provider))
      selection.screen.provider s (s.serve w selection).2 := by
  have turning : Moves w [.turned] s (s.turnedTo selection) := .single (.turned s _)
  have calm := turning.calm (by decide)
  have turned := turning.unmoved hs (by decide)
  have entitled := he.calm calm
  rw [serve_eq]
  by_cases passed : (s.turnedTo selection).isPassedOver selection
  · rw [if_pos passed]
    have rotation : selection.source.isRotation := by
      simp only [isPassedOver, Bool.and_eq_true] at passed
      exact passed.1
    have hrunning := entitled.running_eq_none (Source.ne_onDemand rotation)
    have hlt := turned.1.placed (calm.screens ▸ hr rotation)
    have skipped := turned.1.skipProvider selection.screen.provider
    have step := Turn.of_advanced (skipped.advanceRotation hrunning) (.of_skip hlt)
      (And.intro rotation trivial)
    have paced := (paceAfterPass_moves w _).unmoved step.anchored (by decide)
    exact .before turned.2 (step.after paced)
  · rw [if_neg passed]
    have shown := present_moves (w := w) entitled (by simpa using passed)
    have ended := shown.1.unmoved turned.1 (by decide)
    have turn := conclude_turn (w := w) ((s.turnedTo selection).present w selection).1 ended.1
      shown.2 fun rotation => ended.2.screens ▸ turned.2.screens ▸ hr rotation
    exact .before (turned.2.trans ended.2)
      (turn.after ((paceAfterPass_moves w _).unmoved turn.anchored (by decide)))

lemma tick_turn (w : World σ) (hs : s.Anchored) :
    (s.tick w).2.Anchored ∧
    (∀ selection, s.HadTurn w selection →
      Advanced selection.screen.provider s (s.tick w).2) ∧
    ((∀ selection, ¬ s.HadTurn w selection) → Stayed s (s.tick w).2) := by
  have choosing := chosen_moves w s
  have chosen := choosing.unmoved hs (by decide)
  unfold HadTurn
  rw [tick_eq]
  split
  next stop =>
    have counting : Moves w [.counted] s s.counted := .single (.counted s _)
    have counted := counting.unmoved hs (by decide)
    exact ⟨counted.1, fun _ had => had.2.2.elim, fun _ => counted.2.stayed⟩
  next going =>
    split
    next none =>
      have idled := (idle_moves w (s.chosen w).2).unmoved chosen.1 (by decide)
      exact ⟨idled.1, fun _ had => had.2.2.elim, fun _ => (chosen.2.trans idled.2).stayed⟩
    next selection some =>
      have turn := serve_turn (w := w) chosen.1 (select_entitled w _ some)
        (chosen_screens w s some)
      refine ⟨turn.anchored, ?_, fun never => ?_⟩
      · rintro selection' ⟨some', had⟩
        obtain rfl : selection = selection' := Option.some.inj (some.symm.trans some')
        exact .before chosen.2 (turn.advanced had)
      · exact chosen.2.stayed.trans (turn.stayed fun had => never selection ⟨some, had⟩)

lemma perform_anchored (w : World σ) {op : Operation σ} (hop : op ≠ .advance) (hs : s.Anchored) :
    (s.perform w op).Anchored := by
  cases op with
  | tick => exact (tick_turn w hs).1
  | poll => exact ((pollOnDemand_moves w s).unmoved hs (by decide)).1
  | expire => exact ((checkExpiration_moves w s).unmoved hs (by decide)).1
  | advance => exact absurd rfl hop
  | meanwhile span outside deadline =>
    have elapsed : Moves w [.elapsed] s _ := .single (.elapsed s span outside deadline)
    exact (elapsed.unmoved hs (by decide)).1

/-- In a run in which nobody else moves rotation on, a tick moves it on if and only if the selection
has had its turn, and then exactly once. Sessions that begin and end in the tick do not matter. -/
theorem tick_advances_rotation_iff (u : Setup γ σ) (w : World σ) (ops : List (Operation σ))
    (h : .advance ∉ ops) :
    let s := u.scheduler.performAll w ops
    ((s.tick w).2.rotation.advances ≠ s.rotation.advances ↔
      ∃ selection, s.HadTurn w selection) ∧
    (∀ selection, s.HadTurn w selection → Advanced selection.screen.provider s (s.tick w).2) ∧
    ((∀ selection, ¬ s.HadTurn w selection) → Stayed s (s.tick w).2) := by
  intro s
  have hs : s.Anchored := performAll_keeps
    (fun op hop _ hs => perform_anchored w (fun ha => h (ha ▸ hop)) hs) (anchored_setup u)
  obtain ⟨-, advanced, stayed⟩ := tick_turn w hs
  refine ⟨⟨fun moved => ?_, fun ⟨selection, had⟩ => ?_⟩, advanced, stayed⟩
  · refine Classical.byContradiction fun never => moved ?_
    exact (stayed fun selection had => never ⟨selection, had⟩).advances
  · rw [(advanced selection had).advances]
    exact Nat.succ_ne_self _

def shortSession : Script :=
  { polls := [[], [], [.startMode "1" "clock"], [.stop "2"]] }

def longSession : Script :=
  { polls := [[], [], [.startMode "1" "clock"]] }

theorem sessions_and_the_turn_of_rotation :
    Advanced "scores" (shortSession.play [.tick, .poll])
      ((shortSession.play [.tick, .poll]).tick Script.world).2 ∧
    Stayed (longSession.play [.tick, .poll])
      ((longSession.play [.tick, .poll]).tick Script.world).2 := by
  constructor
  · have outcome : ((shortSession.play [.tick, .poll]).tick Script.world).1 =
        .completed ⟨"scores_live", "scores"⟩ := by decide +kernel
    have had : (shortSession.play [.tick, .poll]).HadTurn Script.world
        ⟨⟨"scores_live", "scores"⟩, .rotation 1⟩ := by
      refine ⟨by decide +kernel, rfl, ?_⟩
      rw [outcome]
      exact fun held => absurd held.2.1 (by decide +kernel)
    exact (tick_advances_rotation_iff shortSession.setup Script.world [.tick, .poll]
      (by simp)).2.1 _ had
  · refine (tick_advances_rotation_iff longSession.setup Script.world [.tick, .poll]
      (by simp)).2.2 fun selection had => ?_
    have chosen : ((longSession.play [.tick, .poll]).chosen Script.world).1 =
        some ⟨⟨"clock", "clock"⟩, .onDemand⟩ := by decide +kernel
    obtain rfl := Option.some.inj (chosen.symm.trans had.1)
    exact Bool.noConfusion had.2.1

end Scheduler

end Marquee
