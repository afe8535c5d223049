import Marquee.Proofs.Rotation.Holding
import Marquee.Proofs.Rotation.Shunning
import Marquee.Proofs.Scheduler.Listing
import Marquee.Proofs.Session.Ending

/-! The counters of a scheduler against what it has done: its ticks, how they came out, its frames and the
steps of rotation. -/

namespace Marquee

namespace TickOutcome

def isFailure : TickOutcome → Bool
  | failed _ _ => true
  | _ => false

def isPreemption : TickOutcome → Bool
  | preempted _ => true
  | _ => false

end TickOutcome

namespace Event

def isFailedFrame : Event → Bool
  | drawn f => f.drawing.isFailure
  | _ => false

def isReturn : Event → Bool
  | rotated r => r.index = 0
  | _ => false

lemma not_isFailedFrame {e : Event} {kind : MoveKind} (h : kind ∈ e.leftBy) (hk : kind ≠ .drew) :
    e.isFailedFrame = false := by
  cases e with
  | drawn => exact absurd (List.mem_singleton.mp h) hk
  | _ => rfl

lemma not_isRotated {e : Event} {kind : MoveKind} (h : kind ∈ e.leftBy) (hk : kind ≠ .rotated) :
    e.isRotated = false := by
  cases e with
  | rotated => exact absurd (List.mem_singleton.mp h) hk
  | _ => rfl

lemma not_isReturn {e : Event} (h : e.isRotated = false) : e.isReturn = false := by
  cases e with
  | rotated => cases h
  | _ => rfl

end Event

lemma countP_cons_toNat {α : Type} (p : α → Bool) (x : α) (xs : List α) :
    (x :: xs).countP p = xs.countP p + (p x).toNat := by
  rw [List.countP_cons]
  cases p x <;> rfl

def Operation.isTick {σ : Type} : Operation σ → Bool
  | tick => true
  | _ => false

@[ext]
structure Account where
  ticks : Nat
  failures : Nat
  preemptions : Nat
  failedFrames : Nat
  lead : Int

def Stage.due (a : Account) : Stage → Account
  | .start => a
  | .chosen _ | .showing _ _ => { a with ticks := a.ticks + 1 }
  | .drawn _ _ drawing =>
    { a with ticks := a.ticks + 1, failedFrames := a.failedFrames + drawing.isFailure.toNat }
  | .over _ ending =>
    { a with ticks := a.ticks + 1, failedFrames := a.failedFrames + ending.isFailure.toNat }
  | .done outcome =>
    { a with
      ticks := a.ticks + 1
      failures := a.failures + outcome.isFailure.toNat
      preemptions := a.preemptions + outcome.isPreemption.toNat
      failedFrames := a.failedFrames + outcome.isFailure.toNat }

def Account.afterAll (a : Account) (outcomes : List TickOutcome) : Account where
  ticks := a.ticks + outcomes.length
  failures := a.failures + outcomes.countP TickOutcome.isFailure
  preemptions := a.preemptions + outcomes.countP TickOutcome.isPreemption
  failedFrames := a.failedFrames + outcomes.countP TickOutcome.isFailure
  lead := a.lead

lemma Account.afterAll_due (a : Account) (outcome : TickOutcome) (outcomes : List TickOutcome) :
    Account.afterAll (Stage.due a (.done outcome)) outcomes = a.afterAll (outcome :: outcomes) := by
  ext <;> simp only [afterAll, Stage.due, countP_cons_toNat, List.length_cons] <;> omega

namespace Scheduler

variable {γ σ : Type} {s s' : Scheduler γ σ}

def account (s : Scheduler γ σ) : Account where
  ticks := s.counters.ticks
  failures := s.counters.displayFailures
  preemptions := s.counters.preemptions
  failedFrames := s.journal.countP Event.isFailedFrame
  lead := s.counters.rotationAdvances - s.rotation.advances

structure Stepped (s : Scheduler γ σ) : Prop where
  advances : s.rotation.advances = s.journal.countP Event.isRotated
  passes : s.rotation.passes = s.journal.countP Event.isReturn

lemma advanceRotation_account (s : Scheduler γ σ) : s.advanceRotation.account = s.account := by
  by_cases nil : s.rotation.screens.isEmpty
  · have rotation : s.rotation.advance = s.rotation := if_pos nil
    have counters : s.advanceRotation.counters = s.counters := by
      simp [advanceRotation, rotation, nil]
    rw [account, advanceRotation_rotation, advanceRotation_journal, if_pos nil, counters, rotation]
    rfl
  · have counters : s.advanceRotation.counters =
        { s.counters with rotationAdvances := s.counters.rotationAdvances + 1 } := by
      simp [advanceRotation, nil, log]
    rw [account, advanceRotation_rotation, advanceRotation_journal, if_neg nil, counters,
      Rotation.advances_advance nil]
    simp [account, Event.isFailedFrame]

lemma advanceRotation_stepped (placed : s.rotation.Placed) (hs : s.Stepped) : s.advanceRotation.Stepped := by
  by_cases nil : s.rotation.screens.isEmpty
  · have rotation : s.rotation.advance = s.rotation := if_pos nil
    refine ⟨?_, ?_⟩ <;> rw [advanceRotation_rotation, advanceRotation_journal, if_pos nil, rotation]
    exacts [hs.advances, hs.passes]
  · have lt := placed (by simpa using nil)
    refine ⟨?_, ?_⟩ <;> rw [advanceRotation_rotation, advanceRotation_journal, if_neg nil]
    · rw [Rotation.advances_advance nil, hs.advances]
      exact (List.countP_cons_of_pos rfl).symm
    · rcases Rotation.advance_spec lt with ⟨index, later, -, -, went⟩ | ⟨-, went⟩ <;> rw [went]
      · have inner : index ≠ 0 := by omega
        simpa [Event.isReturn, inner] using hs.passes
      · simpa [Event.isReturn] using hs.passes

lemma draw_account (w : World σ) (p : Showing) (forceClear : Bool) (s : Scheduler γ σ) :
    (s.draw w p forceClear).2.account = { s.account with
      failedFrames := s.account.failedFrames + (s.draw w p forceClear).1.isFailure.toNat } := by
  have frames : (s.draw w p forceClear).2.journal.countP Event.isFailedFrame =
      s.journal.countP Event.isFailedFrame + (s.draw w p forceClear).1.isFailure.toNat :=
    countP_cons_toNat _ _ _
  rw [account, frames]
  rfl

lemma openShowing_counters (w : World σ) (selection : Selection) (s : Scheduler γ σ) :
    ∃ activations, (s.openShowing w selection).2.counters = { s.counters with activations } := by
  obtain ⟨_, _, activations, made⟩ := openShowing_made w selection s
  exact ⟨activations, congrArg counters made⟩

variable [HealthGate γ] {w : World σ} {kind : MoveKind} {kinds : List MoveKind}
  {a b : Stage × Scheduler γ σ}

lemma Move.countP_eq (h : Move w kind s s') {p : Event → Bool}
    (quiet : ∀ e : Event, kind ∈ e.leftBy → p e = false) : s'.journal.countP p = s.journal.countP p := by
  obtain ⟨new, hj, left⟩ := h.entries
  rw [hj, List.countP_append, List.countP_eq_zero.mpr fun e he => by simp [quiet e (left e he).1],
    Nat.zero_add]

lemma Move.account (h : Move w kind s s') (hk : kind ∉ [.counted, .drew]) : s'.account = s.account := by
  have frames : s'.journal.countP Event.isFailedFrame = s.journal.countP Event.isFailedFrame :=
    h.countP_eq fun e he => Event.not_isFailedFrame he (by rintro rfl; exact hk (by decide))
  by_cases rotated : kind = .rotated
  · cases h with
    | rotated s => exact advanceRotation_account s
    | _ => cases rotated
  have advances := h.advances_eq rotated
  by_cases opened : kind = .opened
  · cases h with
    | opened s selection =>
      obtain ⟨activations, counters⟩ := openShowing_counters w selection s
      rw [Scheduler.account, frames, advances, counters]
      rfl
    | _ => cases opened
  · rw [Scheduler.account, frames, advances, h.kept.counters (by simp_all)]
    rfl

lemma Moves.account (h : Moves w kinds s s') (hk : ∀ kind ∈ kinds, kind ∉ [.counted, .drew]) :
    s'.account = s.account :=
  h.preserve (R := fun a b => b.account = a.account) (fun _ => rfl)
    (fun _ _ _ hab hbc => hbc.trans hab) fun kind hm _ _ move => move.account (hk kind hm)

lemma Move.stepped (h : Move w kind s s') (placed : s.rotation.Placed) (hs : s.Stepped) : s'.Stepped := by
  by_cases rotated : kind = .rotated
  · cases h with
    | rotated s => exact advanceRotation_stepped placed hs
    | _ => cases rotated
  · have steps := h.countP_eq (p := Event.isRotated) fun e he => Event.not_isRotated he rotated
    have returns := h.countP_eq (p := Event.isReturn) fun e he =>
      Event.not_isReturn (Event.not_isRotated he rotated)
    refine ⟨?_, ?_⟩
    · rw [h.advances_eq rotated, steps, hs.advances]
    · rw [h.passes_eq rotated, returns, hs.passes]

lemma performAll_stepped (u : Setup γ σ) (w : World σ) (ops : List (Operation σ)) :
    (u.scheduler.performAll w ops).Stepped :=
  (performAll_of_moves (P := fun s => s.Resumable ∧ s.Stepped)
    (fun _ _ _ move hs => ⟨move.resumable hs.1, move.stepped hs.1.placed hs.2⟩)
    ⟨resumable_setup u, rfl, rfl⟩ ops).2

lemma blamed_account (w : World σ) (selection : Selection) (error : ProviderError) (s : Scheduler γ σ) :
    (s.blamed selection error).account = { s.account with failures := s.account.failures + 1 } := by
  have told : Moves w _ _ (s.blamed selection error) :=
    (Moves.single (.noted _ _)).andThen (.single (.failed _ _ _))
  exact told.account (by decide)

lemma afterFailure_account (w : World σ) {selection : Selection} (error : ProviderError)
    (h : s.Entitled selection) : (s.afterFailure selection error).account =
      { s.account with failures := s.account.failures + 1 } := by
  refine Eq.trans ?_ (blamed_account w selection error s)
  have entitled := h.calm ((blamed_moves w selection error s).calm (by decide))
  rw [afterFailure_eq]
  cases hsource : selection.source with
  | onDemand => exact (breakOff_moves w error entitled hsource).account (by decide)
  | live => exact (Move.setAside (w := w) _ _).account (by decide)
  | rotation index =>
    have passed : Moves w _ (s.blamed selection error) _ :=
      (Moves.single (.setAside _ selection.screen.provider)).andThen (.single (.rotated _))
    exact passed.account (by decide)

lemma conclude_account {selection : Selection} {ending : Ending}
    (h : ending ≠ .preempted → s.Entitled selection) :
    (s.conclude w selection ending).2.account = { s.account with
      failures := s.account.failures + (s.conclude w selection ending).1.isFailure.toNat
      preemptions := s.account.preemptions + (s.conclude w selection ending).1.isPreemption.toNat } ∧
    (s.conclude w selection ending).1.isFailure = ending.isFailure := by
  cases ending with
  | completed | cycleComplete =>
    exact ⟨(finishShowing_moves w s selection).account (by decide), rfl⟩
  | preempted | interrupted | stalled => exact ⟨rfl, rfl⟩
  | noContent =>
    refine ⟨Eq.trans ?_ ((Move.succeeded (w := w) s selection.screen.provider).account (by decide)), rfl⟩
    rw [conclude_noContent]
    split
    · exact advanceRotation_account _
    · exact (idleSleep_moves w _).account (by decide)
  | failed error => exact ⟨afterFailure_account w error (h (by simp)), rfl⟩

lemma Step.account (h : Step w a b) (he : EntitledAt a.1 a.2)
    (known : ∀ screen, a.1.screen? = some screen → a.2.catalog.hasProvider screen.provider)
    {before : Account} (ha : a.2.account = a.1.due before) : b.2.account = b.1.due before := by
  have counted (s : Scheduler γ σ) (hs : s.account = before) :
      s.counted.account = { before with ticks := before.ticks + 1 } :=
    hs ▸ rfl
  cases h with
  | halted s => exact counted s ha
  | idled s =>
    have idled : Moves w _ s.counted (s.chosen w).2.idle :=
      (prepare_moves w s.counted).andThen ((select_moves w _).andThen (idle_moves w _))
    exact (idled.account (by decide)).trans (counted s ha)
  | chose s selection =>
    have chosen : Moves w _ s.counted ((s.chosen w).2.turnedTo selection) :=
      (prepare_moves w s.counted).andThen ((select_moves w _).andThen (.single (.turned _ _)))
    exact (chosen.account (by decide)).trans (counted s ha)
  | passedOver s selection =>
    have passed := (Moves.single (.setAside (w := w) s selection.screen.provider)).andThen
      ((Moves.single (.rotated _)).andThen (paceAfterPass_moves w _))
    exact (passed.account (by decide)).trans ha
  | unregistered s selection _ unknown =>
    -- This step would fail without a frame, but only registered screens come up.
    have registered := known selection.screen rfl
    rw [unknown] at registered
    cases registered
  | opened s selection => exact ((Move.opened s selection).account (by decide)).trans ha
  | interrupted s | timeUp s | gaveUp s | failed s | empty s =>
    exact ((Move.closed (w := w) s _).account (by decide)).trans ha
  | preempted s p =>
    have preempted := (preemptionPending_moves w s p).andThen (.single (.closed _ .preempted))
    exact (preempted.account (by decide)).trans ha
  | drew s p first =>
    have watched := ((preemptionPending_moves w s p).account (by decide)).trans ha
    rw [draw_account, watched]
    rfl
  | judged s p first drawing ending holds judged =>
    have moved := (judged_moves w p first s).andThen (.single (.closed _ ending))
    refine (moved.account (by decide)).trans (ha.trans ?_)
    rw [Stage.due, Stage.due, holds.isFailure]
    rcases judge_ending judged with rfl | rfl <;> rfl
  | rested s p first drawing holds =>
    have rested := (judged_moves w p first s).andThen (rest_moves w _ p)
    refine (rested.account (by decide)).trans (ha.trans ?_)
    simp only [Stage.due, holds.isFailure]
    rfl
  | concluded s selection ending =>
    obtain ⟨booked, outcome⟩ := conclude_account (w := w) he
    refine ((paceAfterPass_moves w _).account (by decide)).trans (booked.trans ?_)
    rw [ha, Stage.due, Stage.due, outcome]

variable {c : Catalog}

lemma tick_account (registered : c.Registered) (hs : s.Listed ∧ s.Answered c) :
    (s.tick w).2.account = Stage.due s.account (.done (s.tick w).1) :=
  tick_invariant_of_known registered hs (fun stage t => t.account = stage.due s.account)
    (fun _ _ step he known booked => step.account he known booked) rfl

def outcomes (w : World σ) : Scheduler γ σ → List (Operation σ) → List TickOutcome
  | _, [] => []
  | s, .tick :: ops => (s.tick w).1 :: outcomes w (s.perform w .tick) ops
  | s, op :: ops => outcomes w (s.perform w op) ops

lemma length_outcomes (ops : List (Operation σ)) :
    (s.outcomes w ops).length = ops.countP Operation.isTick := by
  induction ops generalizing s with
  | nil => rfl
  | cons op ops ih =>
    rw [countP_cons_toNat, ← ih (s := s.perform w op)]
    cases op <;> rfl

-- Ticks are added one by one, and nothing else that is done with a scheduler counts.
lemma performAll_account (registered : c.Registered) (ops : List (Operation σ))
    (hs : s.Listed ∧ s.Answered c) :
    (s.performAll w ops).account = s.account.afterAll (s.outcomes w ops) := by
  induction ops generalizing s with
  | nil => rfl
  | cons op ops ih =>
    have rest := ih (perform_listed (w := w) registered op hs)
    have untold (same : (s.perform w op).account = s.account) :
        ((s.perform w op).performAll w ops).account =
          s.account.afterAll ((s.perform w op).outcomes w ops) :=
      same ▸ rest
    cases op with
    | tick => exact rest.trans ((tick_account registered hs) ▸ Account.afterAll_due _ _ _)
    | poll => exact untold ((pollOnDemand_moves w s).account (by decide))
    | expire => exact untold ((checkExpiration_moves w s).account (by decide))
    | advance => exact untold (advanceRotation_account s)
    | meanwhile span outside deadline =>
      exact untold ((Move.elapsed (w := w) s span outside deadline).account (by decide))

/-- The counters tell the truth, whatever is done with the scheduler: about its ticks and how they came out,
about the frames that could not be drawn, and about the steps of rotation and its returns to the first
screen. -/
theorem counters_count_what_happened (u : Setup γ σ) (registered : u.catalog.Registered) (w : World σ)
    (ops : List (Operation σ)) :
    let s := u.scheduler.performAll w ops
    let outcomes := u.scheduler.outcomes w ops
    s.counters.ticks = ops.countP Operation.isTick ∧ outcomes.length = ops.countP Operation.isTick ∧
    (∀ f, .drawn f ∈ s.journal → u.catalog.hasProvider f.screen.provider) ∧
    s.counters.displayFailures = s.journal.countP Event.isFailedFrame ∧
    s.counters.displayFailures = outcomes.countP TickOutcome.isFailure ∧
    s.counters.preemptions = outcomes.countP TickOutcome.isPreemption ∧
    s.counters.rotationAdvances = s.rotation.advances ∧
    s.rotation.advances = s.journal.countP Event.isRotated ∧
    s.rotation.passes = s.journal.countP Event.isReturn := by
  intro s outcomes
  have length : outcomes.length = ops.countP Operation.isTick := length_outcomes ops
  have stepped : s.Stepped := performAll_stepped u w ops
  have listed := performAll_listed u registered w ops
  have booked : s.account = Account.afterAll ⟨0, 0, 0, 0, 0⟩ outcomes :=
    performAll_account registered ops (performAll_listed u registered w [])
  obtain ⟨ticks, failures, preemptions, failedFrames, lead⟩ := Account.ext_iff.mp booked
  simp only [account, Account.afterAll, Nat.zero_add] at ticks failures preemptions failedFrames lead
  refine ⟨ticks.trans length, length, fun f hf => ?_, failures.trans failedFrames.symm, failures,
    preemptions, ?_, stepped.advances, stepped.passes⟩
  · have mem := listed.1.journal _ hf _ rfl
    rw [listed.2.catalog] at mem
    exact registered.hasProvider mem
  · exact Int.ofNat_inj.mp (Int.sub_eq_zero.mp lead)

def troubled : Setup AlwaysHealthy Script :=
  { clashing with outside :=
    { polls := [[], [], [], [], [], [clockWanted]], broken := [⟨"live", "scores"⟩] } }

def troubledRun : List (Operation Script) :=
  [.tick, .tick, .tick, .advance, .advance, .poll]

theorem troubled_run_is_counted :
    troubled.catalog.Registered ∧
    let s := troubled.scheduler.performAll Script.world troubledRun
    s.counters.ticks = 3 ∧ s.counters.displayFailures = 1 ∧ s.counters.preemptions = 1 ∧
    s.counters.rotationAdvances = 4 ∧ s.rotation.passes = 1 := by
  have registered : troubled.catalog.Registered :=
    .register "scores" ["table"] (.register "clock" ["live", "time", "date"]
      (.register "scores" ["recent", "live"] .empty))
  obtain ⟨ticks, -, -, -, failures, preemptions, advances, rotated, passes⟩ :=
    counters_count_what_happened troubled registered Script.world troubledRun
  have outcomes : troubled.scheduler.outcomes Script.world troubledRun = [.completed ⟨"recent", "scores"⟩,
      .failed ⟨"live", "scores"⟩ (.display "gone"), .preempted ⟨"time", "clock"⟩] := by
    decide +kernel
  have steps : (troubled.scheduler.performAll Script.world troubledRun).journal.countP Event.isRotated = 4 ∧
      (troubled.scheduler.performAll Script.world troubledRun).journal.countP Event.isReturn = 1 := by
    decide +kernel
  rw [outcomes] at failures preemptions
  exact ⟨registered, ticks, failures, preemptions, advances.trans (rotated.trans steps.1),
    passes.trans steps.2⟩

end Scheduler

end Marquee
