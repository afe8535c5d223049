import Marquee.Proofs.Scheduler.Marks
import Marquee.Proofs.Scheduler.Step

namespace Marquee

def Stage.isUnderway : Stage → Bool
  | .chosen _ | .showing _ _ | .drawn _ _ _ => true
  | _ => false

def Stage.isDone : Stage → Bool
  | .done _ => true
  | _ => false

def Stage.isDrawn : Stage → Bool
  | .drawn _ _ _ => true
  | _ => false

lemma Source.ne_onDemand {source : Source} (h : source.isRotation) : source ≠ .onDemand := by
  rintro rfl
  cases h

namespace Scheduler

variable {γ σ : Type}

def EntitledAt : Stage → Scheduler γ σ → Prop
  | .chosen selection, s => s.Entitled selection
  | .showing p _, s => s.Entitled p.selection
  | .drawn p _ _, s => s.Entitled p.selection
  | .over selection ending, s => ending ≠ .preempted → s.Entitled selection
  | .start, _ => True
  | .done _, _ => True

lemma Entitled.calm {selection : Selection} {loud : Event → Bool} {s s' : Scheduler γ σ}
    (h : s.Entitled selection) (hc : Calm loud s s') : s'.Entitled selection := by
  rw [Entitled] at h ⊢
  rw [Session.screen?] at h ⊢
  rwa [hc.running]

lemma Entitled.isActive {selection : Selection} {s : Scheduler γ σ} (h : s.Entitled selection)
    (hs : selection.source = .onDemand) : s.session.isActive := by
  rw [Entitled, hs] at h
  cases hr : s.session.running <;> simp_all [Session.screen?, Session.isActive]

lemma Entitled.running_eq_none {selection : Selection} {s : Scheduler γ σ}
    (h : s.Entitled selection) (hs : selection.source ≠ .onDemand) : s.session.running = none := by
  rw [Entitled] at h
  split at h
  next hd => exact absurd hd hs
  next => exact h

lemma calm_closed (s : Scheduler γ σ) (ending : Ending) : Calm Event.isLoud s (s.closed ending) :=
  calm_log s rfl

variable [HealthGate γ] (w : World σ) (s : Scheduler γ σ)

inductive Selected : Selection → Prop
  | onDemand (screen : Screen) : s.session.screen? = some screen → Selected ⟨screen, .onDemand⟩
  | live (screen : Screen) : s.session.running = none → (s.seekLive w).1 = some screen →
      Selected ⟨screen, .live⟩
  | rotation (screen : Screen) : s.session.running = none → s.rotation.current? = some screen →
      Selected ⟨screen, .rotation s.rotation.index⟩

lemma select_selected {selection : Selection} (h : (s.select w).1 = some selection) :
    Selected w s selection := by
  rw [select] at h
  cases hs : s.session.screen? with
  | some screen =>
    simp only [hs, Option.some.injEq] at h
    exact h ▸ .onDemand screen hs
  | none =>
    have hr : s.session.running = none := by simpa [Session.screen?] using hs
    simp only [hs] at h
    cases hf : (s.seekLive w).1 with
    | some screen =>
      simp only [hf, Option.some.injEq] at h
      exact h ▸ .live screen hr hf
    | none =>
      simp only [hf, Option.map_eq_some_iff] at h
      obtain ⟨screen, hc, rfl⟩ := h
      exact .rotation screen hr hc

lemma Selected.entitled {selection : Selection} (h : Selected w s selection) :
    s.Entitled selection := by
  cases h with
  | onDemand screen hs => exact hs
  | live screen hr => exact hr
  | rotation screen hr => exact hr

lemma select_entitled {selection : Selection} (h : (s.select w).1 = some selection) :
    (s.select w).2.Entitled selection :=
  (select_selected w s h).entitled.calm ((select_moves w s).calm (by decide))

lemma livePreempts_session (p : Showing) :
    (livePreempts w p s).2.session = s.session ∧ (livePreempts w p s).2.clock = s.clock := by
  refine (livePreempts_moves w s p).preserve
    (R := fun a b => b.session = a.session ∧ b.clock = a.clock) (fun _ => ⟨rfl, rfl⟩)
    (fun _ _ _ hab hbc => ⟨hbc.1.trans hab.1, hbc.2.trans hab.2⟩) ?_
  intro kind hk a b move
  cases move <;> first | exact ⟨rfl, rfl⟩ | simp at hk

def watchingKinds : List MoveKind :=
  listeningKinds ++ [.looked, .noted, .inquired]

def showingKinds : List MoveKind :=
  watchingKinds ++ [.opened, .drew, .succeeded, .acknowledged, .maintained, .slept, .closed]

lemma preemptionPending_moves (p : Showing) :
    Moves w watchingKinds s (s.preemptionPending w p).2 := by
  have heard : Moves w watchingKinds s (s.pollOnDemand w).2.checkExpiration.2 :=
    ((pollOnDemand_moves w s).andThen (checkExpiration_moves w _)).mono (by decide)
  unfold preemptionPending
  dsimp only
  split
  · exact heard
  · exact (heard.andThen (livePreempts_moves w _ p)).mono (by decide)

lemma preemptionPending_eq_of_false {p : Showing} (h : (s.preemptionPending w p).1 = false) :
    (s.pollOnDemand w).1 = false ∧
      (s.pollOnDemand w).2.session.isExpired (s.pollOnDemand w).2.clock = false ∧
      s.preemptionPending w p = (s.pollOnDemand w).2.livePreempts w p := by
  unfold preemptionPending at h ⊢
  dsimp only at h ⊢
  by_cases hc : (s.pollOnDemand w).1 || (s.pollOnDemand w).2.checkExpiration.1
  · simp [hc] at h
  · rw [if_neg hc]
    simp only [Bool.or_eq_true, not_or, Bool.not_eq_true] at hc
    have hexp := checkExpiration_eq (s.pollOnDemand w).2
    by_cases he : (s.pollOnDemand w).2.session.isExpired (s.pollOnDemand w).2.clock
    · rw [if_pos he] at hexp
      simp [hexp] at hc
    · rw [if_neg he] at hexp
      rw [hexp]
      exact ⟨hc.1, by simpa using he, rfl⟩

lemma preemptionPending_of_false {p : Showing} (h : (s.preemptionPending w p).1 = false) :
    Calm Event.isLoud s (s.preemptionPending w p).2 ∧
      (s.preemptionPending w p).2.session.isExpired (s.preemptionPending w p).2.clock = false := by
  obtain ⟨unheard, unexpired, stay⟩ := preemptionPending_eq_of_false w s h
  rw [stay]
  refine ⟨((pollOnDemand_moves_of_false w s unheard).andThen
    (livePreempts_moves w _ p)).calm (by decide), ?_⟩
  rw [(livePreempts_session w _ p).1, (livePreempts_session w _ p).2]
  exact unexpired

lemma prepare_moves : Moves w listeningKinds s (s.prepare w) :=
  ((pollOnDemand_moves w s).andThen
    ((checkExpiration_moves w _).andThen (.single (.published _)))).mono (by decide)

def choosingKinds : List MoveKind :=
  listeningKinds ++ [.counted, .noted, .inquired]

lemma chosen_moves : Moves w choosingKinds s (s.chosen w).2 :=
  ((Moves.single (.counted s _)).andThen
    ((prepare_moves w _).andThen (select_moves w _))).mono (by decide)

lemma chosen_screens {selection : Selection} (h : (s.chosen w).1 = some selection)
    (hr : selection.source.isRotation) : (s.chosen w).2.rotation.screens ≠ [] := by
  have selected := select_selected w _ h
  have screens : (s.chosen w).2.rotation.screens = (s.counted.prepare w).rotation.screens :=
    ((select_moves w (s.counted.prepare w)).calm (by decide)).screens
  rw [screens]
  cases selected with
  | onDemand => cases hr
  | live => cases hr
  | rotation screen _ hc =>
    intro hnil
    simp [Rotation.current?, hnil] at hc

lemma finishShowing_moves (selection : Selection) :
    Moves w [.noted, .inquired, .rotated] s (s.finishShowing w selection) := by
  rw [finishShowing]
  split
  · dsimp only
    split
    · exact (providerIsLive_moves w s _).mono (by decide)
    · exact (providerIsLive_moves w s _).andThen (.single (.rotated _))
  · exact .refl s

def concludingKinds : List MoveKind :=
  [.noted, .inquired, .rotated, .counted, .succeeded, .failed, .setAside, .left, .published, .relaxed,
    .slept]

variable {s}

def blamed (selection : Selection) (error : ProviderError) (s : Scheduler γ σ) : Scheduler γ σ :=
  ({ s with counters :=
    { s.counters with displayFailures := s.counters.displayFailures + 1 } }.note
      [.screenFailed selection.screen error]).reportFailure selection.screen.provider error

lemma blamed_moves (selection : Selection) (error : ProviderError) (s : Scheduler γ σ) :
    Moves w [.counted, .noted, .failed] s (s.blamed selection error) :=
  (Moves.single (.counted s _)).andThen
    ((Moves.single (.noted _ _)).andThen (.single (.failed _ _ _)))

lemma afterFailure_eq (selection : Selection) (error : ProviderError) (s : Scheduler γ σ) :
    s.afterFailure selection error =
      match selection.source with
      | .onDemand => (s.blamed selection error).failSession error
      | .live => (s.blamed selection error).skipProvider selection.screen.provider
      | .rotation _ =>
        ((s.blamed selection error).skipProvider selection.screen.provider).advanceRotation :=
  rfl

lemma breakOff_moves {selection : Selection} (error : ProviderError)
    (h : s.Entitled selection) (hs : selection.source = .onDemand) :
    Moves w [.left, .published] s (s.failSession error) := by
  have left := Move.left (w := w) _ _ _ (.broken error (h.isActive hs))
  exact (Moves.single left).andThen (.single (.published _))

lemma failSession_moves {selection : Selection} (error : ProviderError)
    (h : s.Entitled selection) (hs : selection.source = .onDemand) :
    Moves w [.counted, .noted, .failed, .left, .published] s
      ((s.blamed selection error).failSession error) := by
  have blamed := blamed_moves w selection error s
  exact blamed.andThen (breakOff_moves w error (h.calm (blamed.calm (by decide))) hs)

def BreaksOff : Stage → Prop
  | .over selection (.failed _) => selection.source = .onDemand
  | _ => False

def unbrokenKinds : List MoveKind :=
  [.noted, .inquired, .rotated, .counted, .succeeded, .failed, .setAside, .relaxed, .slept]

lemma conclude_awake {selection : Selection} {ending : Ending}
    (h : ¬ BreaksOff (.over selection ending)) (content : ending ≠ .noContent) :
    Moves w (unbrokenKinds.erase .slept) s (s.conclude w selection ending).2 := by
  cases ending with
  | completed => exact (finishShowing_moves w s selection).mono (by decide)
  | cycleComplete => exact (finishShowing_moves w s selection).mono (by decide)
  | preempted => exact (Moves.single (.counted s _)).mono (by decide)
  | noContent => exact absurd rfl content
  | failed error =>
    have aside := (blamed_moves w selection error s).andThen
      (.single (.setAside _ selection.screen.provider))
    rw [conclude, afterFailure_eq]
    cases hs : selection.source with
    | onDemand => exact absurd hs h
    | live => exact aside.mono (by decide)
    | rotation index => exact (aside.andThen (.single (.rotated _))).mono (by decide)
  | interrupted => exact .refl s
  | stalled => exact .refl s

lemma conclude_noContent (selection : Selection) (s : Scheduler γ σ) :
    (s.conclude w selection .noContent).2 = if selection.source.isRotation then
      (s.reportSuccess selection.screen.provider).advanceRotation
    else (s.reportSuccess selection.screen.provider).idleSleep :=
  rfl

lemma conclude_unbroken {selection : Selection} {ending : Ending}
    (h : ¬ BreaksOff (.over selection ending)) :
    Moves w unbrokenKinds s (s.conclude w selection ending).2 := by
  by_cases content : ending = .noContent
  · have praised : Moves w [.succeeded] s (s.reportSuccess selection.screen.provider) :=
      .single (.succeeded s _)
    rw [content, conclude_noContent]
    split
    · exact (praised.andThen (.single (.rotated _))).mono (by decide)
    · exact (praised.andThen (idleSleep_moves w _)).mono (by decide)
  · exact (conclude_awake w h content).mono (by decide)

lemma conclude_broken {selection : Selection} {ending : Ending}
    (h : BreaksOff (.over selection ending)) (s : Scheduler γ σ) :
    selection.source = .onDemand ∧ ∃ error, ending = .failed error ∧
      (s.conclude w selection ending).2 = (s.blamed selection error).failSession error := by
  cases ending with
  | failed error =>
    have hs : selection.source = .onDemand := h
    refine ⟨hs, error, rfl, ?_⟩
    rw [conclude, afterFailure_eq, hs]
  | _ => cases h

lemma conclude_moves {selection : Selection} {ending : Ending}
    (h : ending ≠ .preempted → s.Entitled selection) :
    Moves w concludingKinds s (s.conclude w selection ending).2 := by
  by_cases hb : BreaksOff (.over selection ending)
  · obtain ⟨hs, error, rfl, hconclude⟩ := conclude_broken w hb s
    rw [hconclude]
    exact (failSession_moves w error (h (by simp)) hs).mono (by decide)
  · exact (conclude_unbroken w hb).mono (by decide)

lemma judged_moves (p : Showing) (first : Bool) (s : Scheduler γ σ) :
    Moves w [.succeeded, .acknowledged, .noted, .inquired] s
      ((s.acknowledge p first).judge w p).2 :=
  (acknowledge_moves w s p first).andThen (judge_moves w _ p)

variable {w} {a b : Stage × Scheduler γ σ}

lemma Step.moves_of_isDrawn (h : Step w a b) (hd : b.1.isDrawn) (he : EntitledAt a.1 a.2) :
    Moves w (watchingKinds ++ [.drew]) a.2 b.2 := by
  cases h with
  | drew s p first _ _ stay =>
    have hp := preemptionPending_of_false w s stay
    have entitled : s.Entitled p.selection := he
    exact (preemptionPending_moves w s p).andThen
      (.single (.drew _ p _ (entitled.calm hp.1) hp.2))
  | _ => cases hd

def opens : Stage → Stage → Bool
  | .chosen _, .showing _ _ => true
  | _, _ => false

lemma Step.plain_of_isUnderway (h : Step w a b) (ha : a.1.isUnderway) (hb : b.1.isDone = false)
    (hd : b.1.isDrawn = false) (ho : opens a.1 b.1 = false) :
    Moves w ((showingKinds.erase .drew).erase .opened) a.2 b.2 := by
  cases h with
  | halted | idled | chose | concluded => simp [Stage.isUnderway] at ha
  | passedOver => simp [Stage.isDone] at hb
  | opened => cases ho
  | drew => simp [Stage.isDrawn] at hd
  | unregistered s => exact .refl s
  | interrupted s | timeUp s | failed s | empty s | gaveUp s =>
    exact (Moves.single (.closed s _)).mono (by decide)
  | preempted s p =>
    exact ((preemptionPending_moves w s p).andThen (.single (.closed _ _))).mono (by decide)
  | judged s p first =>
    exact ((judged_moves w p first s).andThen (.single (.closed _ _))).mono (by decide)
  | rested s p first =>
    exact ((judged_moves w p first s).andThen (rest_moves w _ p)).mono (by decide)

lemma Step.undrawn_of_isUnderway (h : Step w a b) (ha : a.1.isUnderway) (hb : b.1.isDone = false)
    (hd : b.1.isDrawn = false) : Moves w (showingKinds.erase .drew) a.2 b.2 := by
  by_cases ho : opens a.1 b.1
  · cases h with
    | opened s selection => exact (Moves.single (.opened s selection)).mono (by decide)
    | _ => cases ho
  · exact (h.plain_of_isUnderway ha hb hd (by simpa using ho)).mono (by decide)

lemma Step.moves_of_isUnderway (h : Step w a b) (ha : a.1.isUnderway) (hb : b.1.isDone = false)
    (he : EntitledAt a.1 a.2) : Moves w showingKinds a.2 b.2 := by
  by_cases hd : b.1.isDrawn
  · exact (h.moves_of_isDrawn hd he).mono (by decide)
  · exact (h.undrawn_of_isUnderway ha hb (by simpa using hd)).mono (by decide)

def tickKinds : List MoveKind :=
  choosingKinds ++ [.turned, .blanked] ++ showingKinds ++ concludingKinds

lemma Step.moves_of_not_isUnderway (h : Step w a b) (ha : ¬ (a.1.isUnderway ∧ b.1.isDone = false))
    (he : EntitledAt a.1 a.2) :
    Moves w (choosingKinds ++ [.turned, .blanked] ++ concludingKinds) a.2 b.2 := by
  cases h with
  | halted s => exact (Moves.single (.counted s _)).mono (by decide)
  | idled s => exact ((chosen_moves w s).andThen (idle_moves w _)).mono (by decide)
  | chose s => exact ((chosen_moves w s).andThen (.single (.turned _ _))).mono (by decide)
  | passedOver s =>
    exact ((Moves.single (.setAside s _)).andThen
      ((Moves.single (.rotated _)).andThen (paceAfterPass_moves w _))).mono (by decide)
  | concluded => exact ((conclude_moves w he).andThen (paceAfterPass_moves w _)).mono (by decide)
  | _ => simp [Stage.isUnderway, Stage.isDone] at ha

lemma Step.undrawn (h : Step w a b) (hd : b.1.isDrawn = false) (he : EntitledAt a.1 a.2) :
    Moves w (tickKinds.erase .drew) a.2 b.2 := by
  by_cases ha : a.1.isUnderway ∧ b.1.isDone = false
  · exact (h.undrawn_of_isUnderway ha.1 ha.2 hd).mono (by decide)
  · exact (h.moves_of_not_isUnderway ha he).mono (by decide)

lemma Step.plain (h : Step w a b) (hd : b.1.isDrawn = false) (ho : opens a.1 b.1 = false)
    (he : EntitledAt a.1 a.2) : Moves w ((tickKinds.erase .drew).erase .opened) a.2 b.2 := by
  by_cases ha : a.1.isUnderway ∧ b.1.isDone = false
  · exact (h.plain_of_isUnderway ha.1 ha.2 hd ho).mono (by decide)
  · exact (h.moves_of_not_isUnderway ha he).mono (by decide)

lemma Step.unopened (h : Step w a b) (ho : opens a.1 b.1 = false) (he : EntitledAt a.1 a.2) :
    Moves w (tickKinds.erase .opened) a.2 b.2 := by
  by_cases hd : b.1.isDrawn
  · exact (h.moves_of_isDrawn hd he).mono (by decide)
  · exact (h.plain (by simpa using hd) ho he).mono (by decide)

lemma Step.moves (h : Step w a b) (he : EntitledAt a.1 a.2) : Moves w tickKinds a.2 b.2 := by
  by_cases hd : b.1.isDrawn
  · exact (h.moves_of_isDrawn hd he).mono (by decide)
  · exact (h.undrawn (by simpa using hd) he).mono (by decide)

lemma Step.entitled (h : Step w a b) (he : EntitledAt a.1 a.2) : EntitledAt b.1 b.2 := by
  cases h with
  | halted | idled | passedOver | concluded => trivial
  | chose s selection _ some =>
    exact (select_entitled w _ some).calm ((Moves.single (.turned (w := w) _ _)).calm (by decide))
  | unregistered => exact fun _ => he
  | opened s selection =>
    have entitled : s.Entitled selection := he
    exact entitled.calm (openShowing_calm w selection s (fun _ => Event.isSession_of_not_isLoud)
      fun _ _ => rfl)
  | interrupted s | timeUp s | failed s | empty s | gaveUp s =>
    exact fun _ => Entitled.calm he (calm_closed s _)
  | preempted => exact fun h => absurd rfl h
  | drew s p first _ _ stay =>
    have entitled : s.Entitled p.selection := he
    exact (entitled.calm (preemptionPending_of_false w s stay).1).calm
      (draw_calm w p _ _ (fun _ => Event.isSession_of_not_isLoud) fun _ => rfl)
  | judged s p first =>
    have entitled : s.Entitled p.selection := he
    exact fun _ => (entitled.calm ((judged_moves w p first s).calm (by decide))).calm (calm_closed _ _)
  | rested s p first =>
    have entitled : s.Entitled p.selection := he
    exact entitled.calm (((judged_moves w p first s).andThen (rest_moves w _ p)).calm (by decide))

lemma Steps.invariant_of_entitled (Inv : Stage → Scheduler γ σ → Prop)
    (step : ∀ a b, Step w a b → EntitledAt a.1 a.2 → Inv a.1 a.2 → Inv b.1 b.2)
    (h : Steps w a b) (he : EntitledAt a.1 a.2) (ha : Inv a.1 a.2) : Inv b.1 b.2 :=
  (h.invariant (fun stage s => EntitledAt stage s ∧ Inv stage s)
    (fun a b hs hab => ⟨hs.entitled hab.1, step a b hs hab.1 hab.2⟩) ⟨he, ha⟩).2

lemma Step.ne_start (h : Step w a b) : b.1 ≠ .start := by
  cases h <;> exact Stage.noConfusion

lemma Step.isUnderway (h : Step w a b) (ha : a.1 ≠ .start) (hb : b.1.isDone = false) :
    a.1.isUnderway := by
  cases h <;> first | rfl | exact absurd rfl ha | cases hb

lemma Stage.isDone_of_isUnderway {stage : Stage} (h : stage.isUnderway) : stage.isDone = false := by
  cases stage <;> first | rfl | cases h

lemma present_invariant (Inv : Stage → Scheduler γ σ → Prop) {selection : Selection}
    {s : Scheduler γ σ} (he : s.Entitled selection) (kept : s.isPassedOver selection = false)
    (step : ∀ a b, Step w a b → a.1.isUnderway → b.1.isDone = false → EntitledAt a.1 a.2 →
      Inv a.1 a.2 → Inv b.1 b.2)
    (h : Inv (.chosen selection) s) :
    Inv (.over selection (s.present w selection).1) (s.present w selection).2 := by
  refine ((present_steps w s selection kept).invariant_of_entitled
    (fun stage s' => stage ≠ .start ∧ (stage.isDone = false → Inv stage s')) ?_ he
    ⟨Stage.noConfusion, fun _ => h⟩).2 rfl
  intro a b hs he ha
  refine ⟨hs.ne_start, fun hb => ?_⟩
  have underway := hs.isUnderway ha.1 hb
  exact step a b hs underway hb he (ha.2 (Stage.isDone_of_isUnderway underway))

lemma present_moves {selection : Selection} {s : Scheduler γ σ} (he : s.Entitled selection)
    (kept : s.isPassedOver selection = false) :
    Moves w showingKinds s (s.present w selection).2 ∧
      ((s.present w selection).1 ≠ .preempted → (s.present w selection).2.Entitled selection) := by
  refine ⟨?_, (present_steps w s selection kept).invariant EntitledAt (fun _ _ hs => hs.entitled) he⟩
  exact present_invariant (fun _ s' => Moves w showingKinds s s') he kept
    (fun _ _ hs ha hb he h => h.trans (hs.moves_of_isUnderway ha hb he)) (.refl s)

theorem tick_moves (w : World σ) (s : Scheduler γ σ) : Moves w tickKinds s (s.tick w).2 :=
  (tick_steps w s).invariant_of_entitled (fun _ s' => Moves w tickKinds s s')
    (fun _ _ hs he h => h.trans (hs.moves he)) trivial (.refl s)

end Scheduler

end Marquee
