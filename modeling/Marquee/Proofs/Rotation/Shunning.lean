import Marquee.Proofs.Live
import Marquee.Proofs.Rotation.Lapses
import Marquee.Proofs.Rotation.Movement

/-! A provider that failed is passed over until the pass ends. The one way back to it within the pass
is from a failure of live content, when rotation stands at one of its screens. -/

namespace Marquee

structure Lapse.Settled (l : Lapse) (r : Rotation) : Prop where
  skipped : r.isSkipped l.provider
  current : ∀ screen, r.current? = some screen → screen.provider = l.provider →
    l.selection.source = .live ∧ l.moved = false

def Event.OpensRightly (e : Event) (before : Journal) : Prop :=
  match e with
  | .opened selection _ _ => selection.source ≠ .onDemand →
      ∀ l ∈ before.lapses, selection.screen.provider = l.provider →
        l.selection.source = .live ∧ l.moved = false ∧ selection.source.isRotation
  | _ => True

lemma Drawing.Holds.isFailure {d : Drawing} {first : Bool} (h : d.Holds first) :
    d.isFailure = false := by
  rcases h with rfl | ⟨rfl, -⟩ <;> rfl

def Ending.isFailure : Ending → Bool
  | .failed _ => true
  | _ => false

lemma Event.rises_of_not_isScene {e : Event} (h : e.isScene = false) (before : Journal) :
    e.Rises before := by
  cases e <;> simp_all [Event.isScene, Event.Rises]

lemma Event.opensRightly_of_not_isScene {e : Event} (h : e.isScene = false) (before : Journal) :
    e.OpensRightly before := by
  cases e <;> simp_all [Event.isScene, Event.OpensRightly]

lemma Lapse.Settled.of_place {l : Lapse} {r r' : Rotation} (h : l.Settled r)
    (hp : r'.place = r.place) : l.Settled r' := by
  have hcurrent := congrArg Rotation.current? hp
  have hskipped := congrArg (Rotation.isSkipped · l.provider) hp
  exact ⟨hskipped.trans h.skipped, fun screen hs => h.current screen (hcurrent.symm.trans hs)⟩

namespace Rotation

lemma current?_skip (r : Rotation) (provider : ProviderId) :
    (r.skip provider).current? = r.current? := by
  simp [current?]

end Rotation

namespace Scheduler

variable {γ σ : Type} {s s₁ : Scheduler γ σ} {pending : Option Selection} {selection : Selection}

structure Booked (s : Scheduler γ σ) : Prop where
  passes : s.journal.passes = s.rotation.passes
  rises : s.journal.Always Event.Rises
  opens : s.journal.Always Event.OpensRightly

structure Shunned (pending : Option Selection) (s : Scheduler γ σ) : Prop extends Booked s where
  settled : ∀ l ∈ s.journal.lapses,
    pending = some l.selection ∧ l.moved = false ∨ l.Settled s.rotation

lemma Booked.unmoved (h : s.Booked) (hu : Unmoved Event.isScene s s₁) : s₁.Booked := by
  obtain ⟨new, hj, hnew⟩ := hu.journal
  have hpasses : s₁.rotation.passes = s.rotation.passes := by
    have hp := congrArg Rotation.passes hu.place
    exact hp
  refine ⟨?_, ?_, ?_⟩
  · rw [hj, Journal.passes_append fun e he => Event.isRotated_of_not_isScene (hnew e he), h.passes,
      hpasses]
  · exact hu.always (fun _ j he => Event.rises_of_not_isScene he j) h.rises
  · exact hu.always (fun _ j he => Event.opensRightly_of_not_isScene he j) h.opens

lemma Booked.skipProvider (h : s.Booked) (provider : ProviderId) :
    (s.skipProvider provider).Booked :=
  ⟨h.passes.trans (Rotation.passes_skip _ _).symm, h.rises, h.opens⟩

namespace Shunned

lemma unmoved (h : s.Shunned pending) (hu : Unmoved Event.isScene s s₁) : s₁.Shunned pending := by
  refine ⟨h.toBooked.unmoved hu, ?_⟩
  obtain ⟨new, hj, hnew⟩ := hu.journal
  rw [hj, Journal.lapses_append hnew]
  exact fun l hl => (h.settled l hl).imp_right (·.of_place hu.place)

lemma calm (h : s.Shunned pending) (hc : Calm Event.isLoud s s₁) : s₁.Shunned pending :=
  h.unmoved (hc.toUnmoved.mono fun _ => Event.isScene_of_not_isLoud)

lemma all_settled (h : s.Shunned none) : ∀ l ∈ s.journal.lapses, l.Settled s.rotation :=
  fun l hl => (h.settled l hl).resolve_left fun hp => nomatch hp.1

lemma withPending (h : s.Shunned none) (pending : Option Selection) : s.Shunned pending :=
  ⟨h.toBooked, fun l hl => .inr (h.all_settled l hl)⟩

lemma of_onDemand (h : s.Shunned (some selection)) (hs : selection.source = .onDemand) :
    s.Shunned none := by
  refine ⟨h.toBooked, fun l hl => .inr ((h.settled l hl).resolve_left ?_)⟩
  rintro ⟨hp, -⟩
  cases hp
  exact Journal.source_of_mem_lapses hl hs

lemma skipped (h : s.Shunned pending) {provider : ProviderId}
    (hp : ∀ selection, pending = some selection → selection.screen.provider = provider) :
    ∀ l ∈ s.journal.lapses, (s.rotation.skip provider).isSkipped l.provider := by
  intro l hl
  rcases h.settled l hl with ⟨hl', -⟩ | settled
  · rw [Lapse.provider, hp _ hl']
    exact Rotation.isSkipped_skip_iff.mpr (.inr rfl)
  · exact Rotation.isSkipped_skip_iff.mpr (.inl settled.skipped)

lemma skipProvider (h : s.Shunned (some selection)) (hs : selection.source = .live) :
    (s.skipProvider selection.screen.provider).Shunned none := by
  refine ⟨h.toBooked.skipProvider _, fun l hl => .inr ⟨?_, ?_⟩⟩
  · exact h.skipped (fun _ he => by cases he; rfl) l hl
  · intro screen hc hprovider
    rcases h.settled l hl with ⟨hl', hm⟩ | settled
    · cases hl'
      exact ⟨hs, hm⟩
    · exact settled.current screen ((Rotation.current?_skip _ _).symm.trans hc) hprovider

end Shunned

lemma Booked.advanceRotation (h : s.Booked)
    (skipped : ∀ l ∈ s.journal.lapses, s.rotation.isSkipped l.provider)
    (hlt : s.rotation.index < s.rotation.screens.length) : s.advanceRotation.Shunned none := by
  have hj : s.advanceRotation.journal = .rotated s.rotation.advance :: s.journal := by
    rw [advanceRotation_journal, if_neg (Rotation.not_isEmpty_of_lt hlt)]
  refine ⟨⟨?_, ?_, ?_⟩, ?_⟩
  · rw [hj]
    rfl
  · rw [hj]
    refine ⟨?_, h.rises⟩
    change s.journal.passes ≤ s.rotation.advance.passes
    rw [h.passes]
    rcases Rotation.advance_spec hlt with ⟨index, -, -, -, hadv⟩ | ⟨-, hadv⟩ <;> simp [hadv]
  · rw [hj]
    exact ⟨trivial, h.opens⟩
  · rw [hj, Journal.lapses, h.passes, advanceRotation_rotation]
    rcases Rotation.advance_spec hlt with ⟨index, -, ⟨landed, hlanded, hopen⟩, -, hadv⟩ | ⟨-, hadv⟩
    · rw [hadv, if_pos rfl]
      intro l hl
      obtain ⟨l', hl', rfl⟩ := List.mem_map.mp hl
      refine .inr ⟨skipped l' hl', ?_⟩
      intro screen hc hprovider
      obtain rfl : landed = screen := Option.some.inj (hlanded.symm.trans hc)
      have hset := skipped l' hl'
      rw [show l'.provider = landed.provider from hprovider.symm, hopen] at hset
      cases hset
    · rw [if_neg (by simp [hadv])]
      simp

lemma Shunned.advanceRotation (h : s.Shunned none)
    (hlt : s.rotation.index < s.rotation.screens.length) : s.advanceRotation.Shunned none :=
  h.toBooked.advanceRotation (fun l hl => (h.all_settled l hl).skipped) hlt

lemma Shunned.passOver (h : s.Shunned pending) {provider : ProviderId}
    (hp : ∀ selection, pending = some selection → selection.screen.provider = provider)
    (hlt : s.rotation.index < s.rotation.screens.length) :
    (s.skipProvider provider).advanceRotation.Shunned none :=
  (h.toBooked.skipProvider provider).advanceRotation (h.skipped hp)
    (by simpa [Scheduler.skipProvider] using hlt)

def Grounded (selection : Selection) (s : Scheduler γ σ) : Prop :=
  match selection.source with
  | .onDemand => True
  | .live => s.rotation.isSkipped selection.screen.provider = false
  | .rotation _ => s.rotation.current? = some selection.screen

lemma Grounded.of_place (h : s.Grounded selection)
    (hp : s₁.rotation.place = s.rotation.place) : s₁.Grounded selection := by
  rw [Grounded] at h ⊢
  split
  next => trivial
  next live =>
    rw [live] at h
    exact (congrArg (Rotation.isSkipped · selection.screen.provider) hp).trans h
  next rotation =>
    rw [rotation] at h
    exact (congrArg Rotation.current? hp).trans h

namespace Shunned

lemma opened (h : s.Shunned none) (hg : s.Grounded selection) (airtime : Airtime) (t : Instant) :
    (s.log (.opened selection airtime t)).Shunned none := by
  refine ⟨⟨h.passes, ⟨trivial, h.rises⟩, ⟨?_, h.opens⟩⟩, h.settled⟩
  intro hs l hl hprovider
  have settled := h.all_settled l hl
  rw [Grounded] at hg
  split at hg
  next onDemand => exact absurd onDemand hs
  next =>
    rw [hprovider, settled.skipped] at hg
    cases hg
  next rotation =>
    obtain ⟨live, moved⟩ := settled.current _ hg hprovider
    exact ⟨live, moved, by rw [rotation]; rfl⟩

lemma drawn (h : s.Shunned none) (f : Frame) :
    (s.log (.drawn f)).Shunned (if f.drawing.isFailure then some f.selection else none) := by
  refine ⟨⟨h.passes, ⟨trivial, h.rises⟩, ⟨trivial, h.opens⟩⟩, fun l hl => ?_⟩
  rw [log, Journal.lapses] at hl
  split at hl
  next lapsed =>
    rcases List.mem_cons.mp hl with rfl | hl
    · have failure : f.drawing.isFailure := by simp_all [Frame.lapsed]
      exact .inl ⟨if_pos failure, rfl⟩
    · exact .inr (h.all_settled l hl)
  next => exact .inr (h.all_settled l hl)

end Shunned

def ShunnedAt : Stage → Scheduler γ σ → Prop
  | .chosen selection, s => s.Shunned none ∧ s.Grounded selection
  | .showing _ _, s => s.Shunned none
  | .drawn p _ drawing, s => s.Shunned (if drawing.isFailure then some p.selection else none)
  | .over selection ending, s => s.Shunned (if ending.isFailure then some selection else none)
  | .start, _ => True
  | .done _, _ => True

lemma Shunned.openShowing (w : World σ) (h : s.Shunned none) (hg : s.Grounded selection) :
    (s.openShowing w selection).2.Shunned none := by
  obtain ⟨s₂, airtime, before, after⟩ := openShowing_marks w selection s
  exact ((h.calm before).opened (hg.of_place before.place) airtime s.clock).calm after

lemma Shunned.draw (w : World σ) (h : s.Shunned none) (p : Showing) (forceClear : Bool) :
    (s.draw w p forceClear).2.Shunned
      (if (s.draw w p forceClear).1.isFailure then some p.selection else none) := by
  obtain ⟨s₂, before, drawn⟩ := draw_marks w p forceClear s
  have shunned := (h.calm before).drawn
    ⟨p.screen, p.selection.source, forceClear, s.clock, s.session, (s.draw w p forceClear).1⟩
  rwa [← drawn] at shunned

lemma Shunned.closed (h : s.Shunned pending) (ending : Ending) :
    (s.closed ending).Shunned pending :=
  h.calm (calm_closed s ending)

lemma shunned_setup (u : Setup γ σ) : u.scheduler.Shunned none :=
  ⟨⟨rfl, trivial, trivial⟩, by simp [Journal.lapses]⟩

variable [HealthGate γ] {w : World σ} {a b : Stage × Scheduler γ σ} {kinds : List MoveKind}

lemma Moves.shunned (h : Moves w kinds s s₁) (hs : s.Anchored) (h' : s.Shunned pending)
    (hk : ∀ kind ∈ kinds, kind ∉ sceneKinds) : s₁.Shunned pending :=
  h'.unmoved (h.offScene hs hk).2

lemma Step.shunned (h : Step w a b) (underway : a.1.isUnderway) (hs : a.2.Anchored)
    (ha : ShunnedAt a.1 a.2) : ShunnedAt b.1 b.2 := by
  cases h with
  | halted | idled | chose => cases underway
  | passedOver | concluded => trivial
  | unregistered s selection => exact ha.1.withPending _
  | opened s selection => exact ha.1.openShowing w ha.2
  | interrupted s | timeUp s | gaveUp s => exact Shunned.closed ha _
  | failed s p first error => exact Shunned.closed ha _
  | empty s p => exact Shunned.closed ha _
  | preempted s p => exact ((preemptionPending_moves w s p).shunned hs ha (by decide)).closed _
  | drew s p first =>
    have watched := (preemptionPending_moves w s p).shunned hs ha (by decide)
    exact watched.draw w p (first && p.forceClear)
  | judged s p first drawing ending holds =>
    rw [ShunnedAt, holds.isFailure] at ha
    exact (ha.calm ((judged_moves w p first s).calm (by decide)) |>.withPending _).closed _
  | rested s p first drawing holds =>
    rw [ShunnedAt, holds.isFailure] at ha
    have judged := ha.calm ((judged_moves w p first s).calm (by decide))
    exact judged.calm ((rest_moves w _ p).calm (by decide))

lemma present_shunned (he : s.Entitled selection) (kept : s.isPassedOver selection = false)
    (hs : s.Anchored) (h : s.Shunned none) (hg : s.Grounded selection) :
    (s.present w selection).2.Shunned
      (if (s.present w selection).1.isFailure then some selection else none) := by
  refine (present_invariant (fun stage s' => s'.Anchored ∧ ShunnedAt stage s') he kept ?_
    ⟨hs, h, hg⟩).2
  intro a b step underway hb he ha
  exact ⟨((step.moves_of_isUnderway underway hb he).unmoved ha.1 (by decide)).1,
    step.shunned underway ha.1 ha.2⟩

lemma finishShowing_shunned (hs : s.Anchored) (h : s.Shunned none)
    (hr : selection.source.isRotation → s.rotation.screens ≠ []) :
    (s.finishShowing w selection).Shunned none := by
  have calm := (providerIsLive_moves w s selection.screen.provider).calm (by decide)
  rw [finishShowing]
  split
  next rotation =>
    dsimp only
    split
    · exact h.calm calm
    · exact (h.calm calm).advanceRotation ((hs.calm calm).placed (calm.screens ▸ hr rotation))
  next => exact h

lemma afterFailure_shunned (w : World σ) (error : ProviderError) (hs : s.Anchored)
    (he : s.Entitled selection) (h : s.Shunned (some selection))
    (hr : selection.source.isRotation → s.rotation.screens ≠ []) :
    (s.afterFailure selection error).Shunned none := by
  have calm := (blamed_moves w selection error s).calm (by decide)
  rw [afterFailure_eq]
  cases hsource : selection.source with
  | onDemand =>
    exact ((failSession_moves w error he hsource).shunned hs h (by decide)).of_onDemand hsource
  | live => exact (h.calm calm).skipProvider hsource
  | rotation index =>
    have rotation : selection.source.isRotation := by rw [hsource]; rfl
    exact (h.calm calm).passOver (fun _ hp => by cases hp; rfl)
      ((hs.calm calm).placed (calm.screens ▸ hr rotation))

lemma conclude_shunned (w : World σ) (ending : Ending) (hs : s.Anchored)
    (he : ending ≠ .preempted → s.Entitled selection)
    (h : s.Shunned (if ending.isFailure then some selection else none))
    (hr : selection.source.isRotation → s.rotation.screens ≠ []) :
    (s.conclude w selection ending).2.Shunned none := by
  cases ending with
  | completed => exact finishShowing_shunned hs h hr
  | cycleComplete => exact finishShowing_shunned hs h hr
  | preempted =>
    have counted : Moves w [.counted] s (s.conclude w selection .preempted).2 :=
      .single (.counted s _)
    exact Shunned.calm h (counted.calm (by decide))
  | interrupted => exact h
  | stalled => exact h
  | noContent =>
    have moves : Moves w [.succeeded] s (s.reportSuccess selection.screen.provider) :=
      .single (.succeeded s _)
    have calm := moves.calm (by decide)
    have praised := Shunned.calm h calm
    rw [conclude]
    dsimp only
    split
    next rotation =>
      exact praised.advanceRotation ((hs.calm calm).placed (calm.screens ▸ hr rotation))
    next => exact praised.calm ((idleSleep_moves w _).calm (by decide))
  | failed error => exact afterFailure_shunned w error hs (he (by simp)) h hr

lemma serve_shunned (hs : s.Anchored) (he : s.Entitled selection) (hg : s.Grounded selection)
    (h : s.Shunned none) (hr : selection.source.isRotation → s.rotation.screens ≠ []) :
    (s.serve w selection).2.Shunned none := by
  have turning : Moves w [.turned] s (s.turnedTo selection) := .single (.turned s _)
  have calm := turning.calm (by decide)
  have shunned := h.calm calm
  have turned := hs.calm calm
  rw [serve_eq]
  by_cases passed : (s.turnedTo selection).isPassedOver selection
  · rw [if_pos passed]
    have rotation : selection.source.isRotation := by
      simp only [isPassedOver, Bool.and_eq_true] at passed
      exact passed.1
    refine Shunned.calm ?_ ((paceAfterPass_moves w _).calm (by decide))
    exact shunned.passOver (by simp) (turned.placed (calm.screens ▸ hr rotation))
  · rw [if_neg passed]
    have kept : (s.turnedTo selection).isPassedOver selection = false := by simpa using passed
    have entitled := he.calm calm
    have shown := present_moves (w := w) entitled kept
    have ended := shown.1.unmoved turned (by decide)
    have pending := present_shunned (w := w) entitled kept turned shunned (hg.of_place calm.place)
    have concluded := conclude_shunned w _ ended.1 shown.2 pending fun rotation =>
      ended.2.screens ▸ calm.screens ▸ hr rotation
    exact concluded.calm ((paceAfterPass_moves w _).calm (by decide))

lemma chosen_grounded (w : World σ) (s : Scheduler γ σ) (h : (s.chosen w).1 = some selection) :
    (s.chosen w).2.Grounded selection := by
  have place := ((select_moves w (s.counted.prepare w)).calm (by decide)).place
  have selected := select_selected w _ h
  refine Grounded.of_place ?_ place
  cases selected with
  | onDemand => trivial
  | live screen _ found =>
    have notBarred := (Live.search_found found).2.1
    simp only [barred, Bool.or_eq_false_iff] at notBarred
    exact notBarred.1
  | rotation screen _ current => exact current

lemma tick_shunned (w : World σ) (hs : s.Anchored) (h : s.Shunned none) :
    (s.tick w).2.Shunned none := by
  have choosing := chosen_moves w s
  have chosen := choosing.shunned hs h (by decide)
  rw [tick_eq]
  split
  · have counted : Moves w [.counted] s s.counted := .single (.counted s _)
    exact h.calm (counted.calm (by decide))
  · split
    · exact chosen.calm ((idle_moves w (s.chosen w).2).calm (by decide))
    next selection some =>
      exact serve_shunned (choosing.offScene hs (by decide)).1 (select_entitled w _ some)
        (chosen_grounded w s some) chosen (chosen_screens w s some)

lemma perform_shunned (w : World σ) {op : Operation σ} (hop : op ≠ .advance) (hs : s.Anchored)
    (h : s.Shunned none) : (s.perform w op).Shunned none := by
  cases op with
  | tick => exact tick_shunned w hs h
  | poll => exact (pollOnDemand_moves w s).shunned hs h (by decide)
  | expire => exact (checkExpiration_moves w s).shunned hs h (by decide)
  | advance => exact absurd rfl hop
  | meanwhile span outside deadline =>
    have elapsed : Moves w [.elapsed] s _ := .single (.elapsed s span outside deadline)
    exact h.calm (elapsed.calm (by decide))

lemma performAll_shunned (u : Setup γ σ) (w : World σ) {ops : List (Operation σ)}
    (h : .advance ∉ ops) : (u.scheduler.performAll w ops).Shunned none := by
  refine (performAll_keeps (P := fun s => s.Anchored ∧ s.Shunned none) (fun op hop s hs => ?_)
    ⟨anchored_setup u, shunned_setup u⟩).2
  have hne : op ≠ .advance := fun ha => h (ha ▸ hop)
  exact ⟨perform_anchored w hne hs.1, perform_shunned w hne hs.1 hs.2⟩

/-- When a call to draw for rotation or live content has failed, its provider is on again in the same
pass, for rotation or live content, in one case only: the failure was one of live content, and the
screen is the one at which rotation has been standing ever since. -/
theorem failed_provider_opens_again_iff (u : Setup γ σ) (w : World σ) (ops : List (Operation σ))
    (h : .advance ∉ ops) (later mid older : Journal) (selection : Selection) (airtime : Airtime)
    (t : Instant) (f : Frame)
    (hj : (u.scheduler.performAll w ops).journal =
      later ++ .opened selection airtime t :: (mid ++ .drawn f :: older))
    (hf : f.lapsed) (hs : selection.source ≠ .onDemand)
    (hp : selection.screen.provider = f.screen.provider) :
    Journal.passes (mid ++ .drawn f :: older) = older.passes ↔
      f.source = .live ∧ selection.source.isRotation ∧ ∀ e ∈ mid, e.isRotated = false := by
  have shunned := performAll_shunned u w h
  have rises := shunned.rises
  have opens := shunned.opens
  rw [hj] at rises opens
  constructor
  · intro same
    have lapse := Journal.mem_lapses rises.of_append.2 hf same
    obtain ⟨live, moved, rotation⟩ := opens.of_split hs _ lapse hp
    exact ⟨live, rotation, by simpa using moved⟩
  · rintro ⟨-, -, still⟩
    exact Journal.passes_append still

def failingLive : Script :=
  { live := [⟨"scores_live", "scores"⟩], broken := [⟨"scores_live", "scores"⟩] }

theorem failed_provider_opens_again :
    ∃ (later mid older : Journal) (airtime : Airtime) (t : Instant) (f : Frame),
      (failingLive.play [.tick, .tick]).journal =
        later ++ .opened ⟨⟨"scores_recent", "scores"⟩, .rotation 0⟩ airtime t ::
          (mid ++ .drawn f :: older) ∧
      f.selection = ⟨⟨"scores_live", "scores"⟩, .live⟩ ∧ f.drawing = .failed (.display "gone") ∧
      Journal.passes (mid ++ .drawn f :: older) = older.passes := by
  let j := (failingLive.play [.tick, .tick]).journal
  let before : Journal := j.drop 6
  obtain ⟨⟨-, airtime, t⟩, opened, rfl⟩ : ∃ opening ∈ j.at? 5 Event.opening?,
      opening.1 = ⟨⟨"scores_recent", "scores"⟩, .rotation 0⟩ := by
    decide +kernel
  obtain ⟨f, drawn, selection, drawing, same⟩ : ∃ f ∈ before.at? 6 Event.frame?,
      f.selection = ⟨⟨"scores_live", "scores"⟩, .live⟩ ∧ f.drawing = .failed (.display "gone") ∧
      Journal.passes before = Journal.passes (before.drop 7) := by
    decide +kernel
  have inner := Journal.split_at_frame drawn
  exact ⟨_, _, _, airtime, t, f, Journal.split_twice (Journal.split_at_opening opened) inner, selection,
    drawing, (congrArg Journal.passes inner).symm.trans same⟩

theorem failed_live_provider_opens_again :
    ∃ (later mid older : Journal) (airtime : Airtime) (t : Instant) (f : Frame),
      (failingLive.play [.tick, .tick]).journal =
        later ++ .opened ⟨⟨"scores_recent", "scores"⟩, .rotation 0⟩ airtime t ::
          (mid ++ .drawn f :: older) ∧
      f.lapsed ∧ f.source = .live ∧ ∀ e ∈ mid, e.isRotated = false := by
  let j := (failingLive.play [.tick, .tick]).journal
  let before : Journal := j.drop 6
  obtain ⟨⟨-, airtime, t⟩, opened, rfl⟩ : ∃ opening ∈ j.at? 5 Event.opening?,
      opening.1 = ⟨⟨"scores_recent", "scores"⟩, .rotation 0⟩ := by
    decide +kernel
  obtain ⟨f, drawn, lapsed, provider, same⟩ : ∃ f ∈ before.at? 6 Event.frame?,
      f.lapsed ∧ "scores" = f.screen.provider ∧
      Journal.passes before = Journal.passes (before.drop 7) := by
    decide +kernel
  have inner := Journal.split_at_frame drawn
  have split := Journal.split_twice (Journal.split_at_opening opened) inner
  obtain ⟨live, -, still⟩ := (failed_provider_opens_again_iff failingLive.setup Script.world [.tick, .tick]
    (by simp) _ _ _ _ airtime t f split lapsed (by decide) provider).mp
    ((congrArg Journal.passes inner).symm.trans same)
  exact ⟨_, _, _, airtime, t, f, split, lapsed, live, still⟩

end Scheduler

end Marquee
