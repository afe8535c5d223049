import Marquee.Proofs.Catalog
import Marquee.Proofs.Rotation.Movement
import Marquee.Proofs.Scheduler.Kept

/-! Rotation is held after a full showing by a provider that claims the display. Whether that provider has
anything to show is found out only when the next choice is made. -/

namespace Marquee

def TickOutcome.isFull : TickOutcome → Bool
  | .completed _ | .cycleComplete _ => true
  | _ => false

def Ending.isFull : Ending → Bool
  | .completed | .cycleComplete => true
  | _ => false

namespace Scheduler

variable {γ σ : Type}

lemma leaveSession_rotation (s : Scheduler γ σ) (ended : Session) (n : Notice) :
    ∃ index, (s.leaveSession ended n).rotation = { s.rotation with index } := by
  rw [leaveSession]
  cases s.session.resume? with
  | none => exact ⟨_, rfl⟩
  | some index =>
    change ∃ index', (s.rotation.restore index).value.2 = { s.rotation with index := index' }
    rw [Rotation.restore]
    split <;> exact ⟨_, rfl⟩

lemma finishShowing_cases (w : World σ) (s : Scheduler γ σ) {selection : Selection}
    (rotation : selection.source.isRotation) :
    (s.ClaimsLive w selection.screen.provider ∧
      s.finishShowing w selection = (s.providerIsLive w selection.screen.provider).2) ∨
    (¬ s.ClaimsLive w selection.screen.provider ∧
      s.finishShowing w selection = (s.providerIsLive w selection.screen.provider).2.advanceRotation) := by
  rw [finishShowing, if_pos rotation, ← providerIsLive_iff]
  cases h : (s.providerIsLive w selection.screen.provider).1 with
  | true => exact .inl ⟨rfl, by simp [h]⟩
  | false => exact .inr ⟨by simp, by simp [h]⟩

variable [HealthGate γ] {w : World σ} {s s' : Scheduler γ σ} {selection : Selection}

/-- A search for live content gets as far as this screen of the provider if nobody before it has one. -/
structure Offers (w : World σ) (s : Scheduler γ σ) (provider : ProviderId) (screen : Screen) : Prop where
  claims : s.ClaimsLive w provider
  asked : s.barred provider = false
  resolves : ∃ modes, (w.answers s.outside s.clock provider).liveModes = .ok modes ∧
    Live.chosen? s.catalog provider modes = some screen

structure SameNews (w : World σ) (s s' : Scheduler γ σ) : Prop where
  answers : ∀ provider, w.answers s'.outside s'.clock provider = w.answers s.outside s.clock provider
  gate : ∀ provider, HealthGate.skips s'.gate s'.clock provider = HealthGate.skips s.gate s.clock provider

def atEnd (w : World σ) (s : Scheduler γ σ) (selection : Selection) : Scheduler γ σ :=
  (((s.chosen w).2.turnedTo selection).present w selection).2

lemma offers_iff {provider : ProviderId} {screen : Screen} : s.Offers w provider screen ↔
    s.barred provider = false ∧ s.catalog.hasProvider provider ∧
      (Live.screenOf? s.catalog provider (w.answers s.outside s.clock provider)).value = some screen := by
  rw [Live.screenOf?_eq_some_iff, Live.isLive_iff]
  exact ⟨fun ⟨⟨known, live⟩, asked, resolves⟩ => ⟨asked, known, live, resolves⟩,
    fun ⟨asked, known, live, resolves⟩ => ⟨⟨known, live⟩, asked, resolves⟩⟩

lemma seekLive_eq_none_iff :
    (s.seekLive w).1 = none ↔ ∀ provider screen, ¬ s.Offers w provider screen := by
  change (Live.search _ _ _ _).value = none ↔ _
  rw [Live.search_eq_none_iff]
  constructor
  · intro none provider screen offers
    obtain ⟨asked, known, found⟩ := offers_iff.mp offers
    have listed : provider ∈ s.catalog.rotationOrder :=
      Catalog.mem_rotationOrder.mpr ⟨screen, Live.screenOf?_mem found, Live.screenOf?_provider found⟩
    cases (none provider listed asked known).symm.trans found
  · intro nobody provider _ asked known
    refine Option.eq_none_iff_forall_ne_some.mpr fun screen found => ?_
    exact nobody provider screen (offers_iff.mpr ⟨asked, known, found⟩)

lemma SameNews.seekLive (news : SameNews w s s') (catalog : s'.catalog = s.catalog)
    (place : s'.rotation.place = s.rotation.place) : (s'.seekLive w).1 = (s.seekLive w).1 := by
  have answers : w.answers s'.outside s'.clock = w.answers s.outside s.clock := funext news.answers
  have barred : s'.barred = s.barred := by
    funext provider
    have skipped := congrArg (Rotation.isSkipped · provider) place
    rw [Scheduler.barred, Scheduler.barred, news.gate provider]
    exact congrArg (· || _) skipped
  change (Live.find s'.catalog (w.answers s'.outside s'.clock) s'.barred).value = _
  rw [catalog, answers, barred]
  rfl

variable {kind : MoveKind} {kinds : List MoveKind} {a b : Stage × Scheduler γ σ}

lemma Move.rotation_eq (h : Move w kind s s') (hk : kind ≠ .rotated) :
    ∃ index onDisplay skipped, s'.rotation = { s.rotation with index, onDisplay, skipped } := by
  by_cases hr : kind ∈ rotationKinds
  · cases h with
    | left s ended n =>
      obtain ⟨index, left⟩ := leaveSession_rotation s ended n
      exact ⟨index, _, _, left⟩
    | setAside s provider =>
      change ∃ index onDisplay skipped, s.rotation.skip provider = _
      rw [Rotation.skip]
      split <;> exact ⟨_, _, _, rfl⟩
    | opened s selection =>
      obtain ⟨_, _, _, _, _, _, hopen, -⟩ := openShowing_eq w selection s
      rw [hopen]
      exact ⟨_, _, _, rfl⟩
    | blanked => exact ⟨_, _, _, rfl⟩
    | rotated => exact absurd rfl hk
    | _ => simp [rotationKinds] at hr
  · exact ⟨_, _, _, h.kept.rotation hr⟩

lemma Move.advances_eq (h : Move w kind s s') (hk : kind ≠ .rotated) :
    s'.rotation.advances = s.rotation.advances := by
  obtain ⟨_, _, _, rotation⟩ := h.rotation_eq hk
  rw [rotation]

lemma Move.passes_eq (h : Move w kind s s') (hk : kind ≠ .rotated) :
    s'.rotation.passes = s.rotation.passes := by
  obtain ⟨_, _, _, rotation⟩ := h.rotation_eq hk
  rw [rotation]

lemma Moves.advances_eq (h : Moves w kinds s s') (hk : .rotated ∉ kinds) :
    s'.rotation.advances = s.rotation.advances :=
  h.preserve (R := fun a b => b.rotation.advances = a.rotation.advances) (fun _ => rfl)
    (fun _ _ _ hab hbc => hbc.trans hab) fun _ hm _ _ move => move.advances_eq fun he => hk (he ▸ hm)

lemma Step.calm (h : Step w a b) (ha : a.1.isUnderway) (hb : b.1.isDone = false)
    (stays : ∀ selection, b.1 ≠ .over selection .preempted) : Calm Event.isRotated a.2 b.2 := by
  have quiet {s s' : Scheduler γ σ} (hc : Calm Event.isLoud s s') : Calm Event.isRotated s s' :=
    hc.mono fun _ => Event.isRotated_of_not_isLoud
  cases h with
  | halted | idled | chose | concluded => cases ha
  | passedOver => cases hb
  | preempted => exact absurd rfl (stays _)
  | unregistered s => exact .refl s
  | opened s selection =>
    exact openShowing_calm w selection s (fun _ => Event.isRotated_of_not_isLoud) fun _ _ => rfl
  | interrupted s | timeUp s | failed s | empty s | gaveUp s => exact quiet (calm_closed s _)
  | drew s p first _ _ stay =>
    exact (quiet (preemptionPending_of_false w s stay).1).trans
      (draw_calm w p _ _ (fun _ => Event.isRotated_of_not_isLoud) fun _ => rfl)
  | judged s p first =>
    exact quiet (((judged_moves w p first s).calm (by decide)).trans (calm_closed _ _))
  | rested s p first =>
    exact quiet (((judged_moves w p first s).andThen (rest_moves w _ p)).calm (by decide))

lemma present_calm (he : s.Entitled selection) (kept : s.isPassedOver selection = false)
    (stays : (s.present w selection).1 ≠ .preempted) :
    Calm Event.isRotated s (s.present w selection).2 := by
  refine present_invariant (fun stage s' => (∀ other, stage ≠ .over other .preempted) →
    Calm Event.isRotated s s') he kept (fun a b step ha hb _ before stays => ?_) (fun _ => .refl s)
    fun other same => stays (Stage.over.inj same).2
  have underway : ∀ other, a.1 ≠ .over other .preempted := by
    intro other same
    rw [same] at ha
    cases ha
  exact (before underway).trans (step.calm ha hb stays)

lemma tick_of_full (chosen : (s.chosen w).1 = some selection) (full : (s.tick w).1.isFull) :
    ((s.chosen w).2.turnedTo selection).isPassedOver selection = false ∧
      (((s.chosen w).2.turnedTo selection).present w selection).1.isFull ∧
      (s.tick w).2 = ((s.atEnd w selection).finishShowing w selection).paceAfterPass := by
  rw [tick_eq] at full ⊢
  split at full
  next => cases full
  next going =>
    rw [if_neg going]
    simp only [chosen] at full ⊢
    rw [serve_eq] at full ⊢
    split at full
    next => cases full
    next kept =>
      rw [if_neg kept]
      refine ⟨by simpa using kept, ?_⟩
      dsimp only at full ⊢
      rw [atEnd]
      generalize ((s.chosen w).2.turnedTo selection).present w selection = ended at full ⊢
      obtain ⟨ending, s₁⟩ := ended
      cases ending <;> first | exact ⟨rfl, rfl⟩ | cases full

lemma atEnd_calm (chosen : (s.chosen w).1 = some selection) (full : (s.tick w).1.isFull) :
    (s.atEnd w selection).Entitled selection ∧
      Calm Event.isRotated (s.chosen w).2 (s.atEnd w selection) := by
  obtain ⟨kept, ending, -⟩ := tick_of_full chosen full
  have stays : (((s.chosen w).2.turnedTo selection).present w selection).1 ≠ .preempted := by
    intro preempted
    rw [preempted] at ending
    cases ending
  have turned : Calm Event.isRotated (s.chosen w).2 ((s.chosen w).2.turnedTo selection) :=
    ((Moves.single (.turned (w := w) _ _)).calm (by decide)).mono fun _ => Event.isRotated_of_not_isLoud
  have entitled := (select_entitled w _ chosen).calm turned
  exact ⟨(present_moves entitled kept).2 stays, turned.trans (present_calm entitled kept stays)⟩

lemma chosen_current (chosen : (s.chosen w).1 = some selection) (rotation : selection.source.isRotation) :
    (s.chosen w).2.rotation.current? = some selection.screen ∧
      selection.source = .rotation (s.chosen w).2.rotation.index := by
  have kept := (select_moves w (s.counted.prepare w)).calm (by decide)
  rw [Scheduler.chosen, kept.current?, kept.index]
  cases select_selected w _ chosen with
  | onDemand | live => cases rotation
  | rotation screen _ current => exact ⟨current, rfl⟩

lemma advances_held_iff (chosen : (s.chosen w).1 = some selection) (rotation : selection.source.isRotation)
    (full : (s.tick w).1.isFull) :
    (s.tick w).2.rotation.advances = s.rotation.advances ↔
      (s.atEnd w selection).ClaimsLive w selection.screen.provider := by
  obtain ⟨-, -, ends⟩ := tick_of_full chosen full
  obtain ⟨-, calm⟩ := atEnd_calm chosen full
  have before : (s.atEnd w selection).rotation.advances = s.rotation.advances :=
    calm.advances.trans ((chosen_moves w s).advances_eq (by decide))
  have asked := providerIsLive_moves w (s.atEnd w selection) selection.screen.provider
  have after : (s.tick w).2.rotation.advances =
      ((s.atEnd w selection).finishShowing w selection).rotation.advances := by
    rw [ends]
    exact (paceAfterPass_moves w _).advances_eq (by decide)
  rw [after, ← before]
  rcases finishShowing_cases w (s.atEnd w selection) rotation with ⟨claims, held⟩ | ⟨idle, goes⟩
  · rw [held]
    exact iff_of_true (asked.advances_eq (by decide)) claims
  · refine iff_of_false ?_ idle
    have placed := calm.trans ((asked.calm (by decide)).mono fun _ => Event.isRotated_of_not_isLoud)
    have current := placed.current?.trans (chosen_current chosen rotation).1
    have lt := (List.getElem?_eq_some_iff.mp current).1
    rw [goes, advanceRotation_rotation, Rotation.advances_advance (Rotation.not_isEmpty_of_lt lt),
      asked.advances_eq (by decide)]
    exact Nat.succ_ne_self _

lemma prepare_quiet (silence : (s.receive w).takeRequest.1 = none) (idle : s.session.running = none) :
    Calm Event.isLoud s (s.prepare w) := by
  have unexpired : (s.receive w).takeRequest.2.session.isExpired (s.receive w).takeRequest.2.clock = false := by
    rw [takeRequest_session]
    simp [Session.isExpired, Session.limit?, receive, idle]
  have prepared : s.prepare w = (s.receive w).takeRequest.2.publish := by
    rw [prepare, pollOnDemand, silence]
    dsimp only
    rw [checkExpiration_eq, unexpired]
    rfl
  rw [prepared]
  exact ((unheard_moves w s).andThen (.single (.published _))).calm (by decide)

lemma select_of_idle (idle : s.session.running = none) : (s.select w).1 =
    match (s.seekLive w).1 with
    | some screen => some ⟨screen, .live⟩
    | none => s.rotation.current?.map fun screen => ⟨screen, .rotation s.rotation.index⟩ := by
  rw [select, Session.screen?, idle]
  dsimp only [Option.map_none]
  cases (s.seekLive w).1 <;> rfl

/-- After a full showing of its own, rotation is held exactly if the provider claims the display. That is
not to say that live content is found: nobody may have any that can be shown. In that case rotation shows
the same screen again, as long as nothing changes. -/
theorem rotation_held_iff (w : World σ) (s : Scheduler γ σ) (selection : Selection)
    (chosen : (s.chosen w).1 = some selection) (rotation : selection.source.isRotation)
    (full : (s.tick w).1.isFull) :
    let ended := s.atEnd w selection
    let next := (s.tick w).2
    (next.rotation.advances = s.rotation.advances ↔ ended.ClaimsLive w selection.screen.provider) ∧
    ((ended.seekLive w).1 = none ↔ ∀ provider screen, ¬ ended.Offers w provider screen) ∧
    (next.rotation.advances = s.rotation.advances → (next.counted.receive w).takeRequest.1 = none →
      SameNews w ended (next.counted.prepare w) →
      (next.chosen w).1 = some (match (ended.seekLive w).1 with
        | some screen => ⟨screen, .live⟩
        | none => selection)) := by
  intro ended next
  have held := advances_held_iff chosen rotation full
  refine ⟨held, seekLive_eq_none_iff, fun same silence news => ?_⟩
  obtain ⟨-, -, ends⟩ := tick_of_full chosen full
  obtain ⟨entitled, calm⟩ := atEnd_calm chosen full
  have running : ended.session.running = none := entitled.running_eq_none (Source.ne_onDemand rotation)
  have finished : Calm Event.isLoud ended next.counted := by
    rcases finishShowing_cases w (s.atEnd w selection) rotation with ⟨-, stays⟩ | ⟨idle, -⟩
    · have moves : Moves w [.noted, .inquired, .relaxed, .slept, .counted] ended next.counted := by
        change Moves w _ _ (s.tick w).2.counted
        rw [ends, stays]
        exact (providerIsLive_moves w _ _).andThen
          ((paceAfterPass_moves w _).andThen (.single (.counted _ _)))
      exact moves.calm (by decide)
    · exact absurd (held.mp same) idle
  have prepared := finished.trans (prepare_quiet (s := next.counted) silence (finished.running.trans running))
  rw [Scheduler.chosen, select_of_idle (prepared.running.trans running),
    news.seekLive prepared.catalog prepared.place]
  cases (ended.seekLive w).1 with
  | some screen => rfl
  | none =>
    obtain ⟨current, source⟩ := chosen_current chosen rotation
    rw [prepared.current?, calm.current?, current, prepared.index, calm.index]
    exact congrArg some (congrArg (Selection.mk _) source.symm)

def muteWorld : World Script :=
  { Script.world with
    answers := fun script t provider =>
      { Script.world.answers script t provider with liveModes := .error (.query "gone") } }

def muteScores : Scheduler AlwaysHealthy Script :=
  { Script.setup { live := [⟨"scores_recent", "scores"⟩] } with
    catalog :=
      { providers := ["scores", "clock"]
        screens := [⟨"scores_recent", "scores"⟩, ⟨"clock", "clock"⟩] } : Setup AlwaysHealthy Script }.scheduler

def firstTurn : Selection :=
  ⟨⟨"scores_recent", "scores"⟩, .rotation 0⟩

theorem mute_provider_holds_rotation :
    (muteScores.tick muteWorld).2.rotation.advances = muteScores.rotation.advances ∧
    ((muteScores.tick muteWorld).2.chosen muteWorld).1 = some firstTurn := by
  obtain ⟨held, -, again⟩ := rotation_held_iff muteWorld muteScores firstTurn (by decide +kernel) rfl
    (by decide +kernel)
  have claims : (muteScores.atEnd muteWorld firstTurn).ClaimsLive muteWorld "scores" :=
    providerIsLive_iff.mp (by decide +kernel)
  have unsought : ((muteScores.atEnd muteWorld firstTurn).seekLive muteWorld).1 = none := by
    decide +kernel
  have live : ((muteScores.tick muteWorld).2.counted.prepare muteWorld).outside.live =
      (muteScores.atEnd muteWorld firstTurn).outside.live := by decide +kernel
  have answers (script : Script) (t : Instant) (provider : ProviderId) :
      muteWorld.answers script t provider = muteWorld.answers { live := script.live } 0 provider := rfl
  have news : SameNews muteWorld (muteScores.atEnd muteWorld firstTurn)
      ((muteScores.tick muteWorld).2.counted.prepare muteWorld) :=
    ⟨fun provider => by rw [answers, live, ← answers], fun _ => rfl⟩
  refine ⟨held.mpr claims, ?_⟩
  rw [again (held.mpr claims) (by decide +kernel) news, unsought]

theorem held_rotation_without_live_content :
    (muteScores.tick muteWorld).1 = .completed firstTurn.screen ∧
    (muteScores.tick muteWorld).2.rotation.advances = 0 ∧
    ((muteScores.atEnd muteWorld firstTurn).seekLive muteWorld).1 = none ∧
    ((muteScores.tick muteWorld).2.tick muteWorld).1 = .completed firstTurn.screen ∧
    ((muteScores.tick muteWorld).2.tick muteWorld).2.rotation.advances = 0 := by
  refine ⟨?_, ?_, ?_, ?_, ?_⟩ <;> decide +kernel

end Scheduler

end Marquee
