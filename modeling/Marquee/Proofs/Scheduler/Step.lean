import Mathlib.Logic.Relation
import Mathlib.Tactic.Lemma
import Marquee.Scheduler.Tick

namespace Marquee

inductive Stage
  | start
  | chosen (selection : Selection)
  | showing (p : Showing) (first : Bool)
  | drawn (p : Showing) (first : Bool) (drawing : Drawing)
  | over (selection : Selection) (ending : Ending)
  | done (outcome : TickOutcome)

def Drawing.Holds (d : Drawing) (first : Bool) : Prop :=
  d = .shown ∨ d = .nothing ∧ first = false

namespace Scheduler

variable {γ σ : Type} [HealthGate γ]

def counted (s : Scheduler γ σ) : Scheduler γ σ :=
  { s with counters := { s.counters with ticks := s.counters.ticks + 1 } }

def chosen (w : World σ) (s : Scheduler γ σ) : Option Selection × Scheduler γ σ :=
  (s.counted.prepare w).select w

def turnedTo (selection : Selection) (s : Scheduler γ σ) : Scheduler γ σ :=
  { s with phase := Phase.ofSource selection.source }

def closed (ending : Ending) (s : Scheduler γ σ) : Scheduler γ σ :=
  s.log (.closed ending s.clock)

def afterRound (p : Showing) (answer : Option Ending) (s : Scheduler γ σ) : Stage × Scheduler γ σ :=
  match answer with
  | some ending => (.over p.selection ending, s.closed ending)
  | none => (.showing p false, s)

inductive Step (w : World σ) : Stage × Scheduler γ σ → Stage × Scheduler γ σ → Prop
  | halted (s : Scheduler γ σ) : s.shouldStop w → Step w (.start, s) (.done .interrupted, s.counted)
  | idled (s : Scheduler γ σ) : s.shouldStop w = false → (s.chosen w).1 = none →
      Step w (.start, s) (.done .idle, (s.chosen w).2.idle)
  | chose (s : Scheduler γ σ) (selection : Selection) : s.shouldStop w = false →
      (s.chosen w).1 = some selection →
      Step w (.start, s) (.chosen selection, (s.chosen w).2.turnedTo selection)
  | passedOver (s : Scheduler γ σ) (selection : Selection) : s.isPassedOver selection →
      Step w (.chosen selection, s) (.done (.skipped selection.screen),
        (s.skipProvider selection.screen.provider).advanceRotation.paceAfterPass)
  | unregistered (s : Scheduler γ σ) (selection : Selection) : s.isPassedOver selection = false →
      s.catalog.hasProvider selection.screen.provider = false →
      Step w (.chosen selection, s) (.over selection (.failed (.unavailable
        ("provider '" ++ selection.screen.provider ++ "' is not registered"))), s)
  | opened (s : Scheduler γ σ) (selection : Selection) : s.isPassedOver selection = false →
      s.catalog.hasProvider selection.screen.provider →
      Step w (.chosen selection, s)
        (.showing (s.openShowing w selection).1 true, (s.openShowing w selection).2)
  | interrupted (s : Scheduler γ σ) (p : Showing) (first : Bool) : s.shouldStop w →
      Step w (.showing p first, s) (.over p.selection .interrupted, s.closed .interrupted)
  | timeUp (s : Scheduler γ σ) (p : Showing) (first : Bool) : p.target ≤ p.elapsed s.clock →
      Step w (.showing p first, s) (.over p.selection .completed, s.closed .completed)
  | preempted (s : Scheduler γ σ) (p : Showing) (first : Bool) : s.shouldStop w = false →
      p.elapsed s.clock < p.target → (s.preemptionPending w p).1 →
      Step w (.showing p first, s)
        (.over p.selection .preempted, (s.preemptionPending w p).2.closed .preempted)
  | drew (s : Scheduler γ σ) (p : Showing) (first : Bool) : s.shouldStop w = false →
      p.elapsed s.clock < p.target → (s.preemptionPending w p).1 = false →
      Step w (.showing p first, s)
        (.drawn p first ((s.preemptionPending w p).2.draw w p (first && p.forceClear)).1,
          ((s.preemptionPending w p).2.draw w p (first && p.forceClear)).2)
  | failed (s : Scheduler γ σ) (p : Showing) (first : Bool) (error : ProviderError) :
      Step w (.drawn p first (.failed error), s)
        (.over p.selection (.failed error), s.closed (.failed error))
  | empty (s : Scheduler γ σ) (p : Showing) :
      Step w (.drawn p true .nothing, s) (.over p.selection .noContent, s.closed .noContent)
  | judged (s : Scheduler γ σ) (p : Showing) (first : Bool) (drawing : Drawing) (ending : Ending) :
      drawing.Holds first → ((s.acknowledge p first).judge w p).1 = some ending →
      Step w (.drawn p first drawing, s)
        (.over p.selection ending, ((s.acknowledge p first).judge w p).2.closed ending)
  | rested (s : Scheduler γ σ) (p : Showing) (first : Bool) (drawing : Drawing) :
      drawing.Holds first → ((s.acknowledge p first).judge w p).1 = none →
      Step w (.drawn p first drawing, s)
        (.showing p false, ((s.acknowledge p first).judge w p).2.rest w p)
  | gaveUp (s : Scheduler γ σ) (p : Showing) (first : Bool) :
      Step w (.showing p first, s) (.over p.selection .stalled, s.closed .stalled)
  | concluded (s : Scheduler γ σ) (selection : Selection) (ending : Ending) :
      Step w (.over selection ending, s) (.done (s.conclude w selection ending).1,
        (s.conclude w selection ending).2.paceAfterPass)

def Steps (w : World σ) : Stage × Scheduler γ σ → Stage × Scheduler γ σ → Prop :=
  Relation.ReflTransGen (Step w)

variable {w : World σ}

lemma Steps.invariant (Inv : Stage → Scheduler γ σ → Prop) {a b : Stage × Scheduler γ σ}
    (step : ∀ a b, Step w a b → Inv a.1 a.2 → Inv b.1 b.2) (h : Steps w a b)
    (ha : Inv a.1 a.2) : Inv b.1 b.2 := by
  induction h with
  | refl => exact ha
  | tail _ hs ih => exact step _ _ hs ih

inductive Followed (w : World σ) (p : Showing) (first : Bool) (s : Scheduler γ σ) :
    Drawing → Option Ending → Scheduler γ σ → Prop
  | failed (error : ProviderError) : Followed w p first s (.failed error) (some (.failed error)) s
  | empty : first = true → Followed w p first s .nothing (some .noContent) s
  | judged (drawing : Drawing) (ending : Ending) : drawing.Holds first →
      ((s.acknowledge p first).judge w p).1 = some ending →
      Followed w p first s drawing (some ending) ((s.acknowledge p first).judge w p).2
  | rested (drawing : Drawing) : drawing.Holds first →
      ((s.acknowledge p first).judge w p).1 = none →
      Followed w p first s drawing none (((s.acknowledge p first).judge w p).2.rest w p)

inductive Rounded (w : World σ) (p : Showing) (first : Bool) (s : Scheduler γ σ) :
    Option Ending → Scheduler γ σ → Prop
  | interrupted : s.shouldStop w → Rounded w p first s (some .interrupted) s
  | timeUp : p.target ≤ p.elapsed s.clock → Rounded w p first s (some .completed) s
  | preempted : s.shouldStop w = false → p.elapsed s.clock < p.target →
      (s.preemptionPending w p).1 → Rounded w p first s (some .preempted) (s.preemptionPending w p).2
  | drew (answer : Option Ending) (s' : Scheduler γ σ) : s.shouldStop w = false →
      p.elapsed s.clock < p.target → (s.preemptionPending w p).1 = false →
      Followed w p first ((s.preemptionPending w p).2.draw w p (first && p.forceClear)).2
        ((s.preemptionPending w p).2.draw w p (first && p.forceClear)).1 answer s' →
      Rounded w p first s answer s'

variable (w) (s : Scheduler γ σ)

lemma follow_followed (p : Showing) (first : Bool) (drawing : Drawing) :
    Followed w p first s drawing (s.follow w p first drawing).1 (s.follow w p first drawing).2 := by
  by_cases h : drawing.Holds first
  · have hfollow : s.follow w p first drawing =
        match ((s.acknowledge p first).judge w p).1 with
        | some ending => (some ending, ((s.acknowledge p first).judge w p).2)
        | none => (none, ((s.acknowledge p first).judge w p).2.rest w p) := by
      rcases h with rfl | ⟨rfl, rfl⟩ <;> rfl
    rw [hfollow]
    cases hj : ((s.acknowledge p first).judge w p).1 with
    | some ending => exact .judged drawing ending h hj
    | none => exact .rested drawing h hj
  · cases drawing with
    | shown => exact absurd (.inl rfl) h
    | failed error => exact .failed error
    | nothing =>
      cases first with
      | true => exact .empty rfl
      | false => exact absurd (.inr ⟨rfl, rfl⟩) h

lemma round_rounded (p : Showing) (first : Bool) :
    Rounded w p first s (s.round w p first).1 (s.round w p first).2 := by
  by_cases stop : s.shouldStop w
  · rw [show s.round w p first = (some .interrupted, s) by simp [round, stop]]
    exact .interrupted stop
  by_cases up : p.target ≤ p.elapsed s.clock
  · rw [show s.round w p first = (some .completed, s) by simp [round, stop, up]]
    exact .timeUp up
  have hstop : s.shouldStop w = false := by simpa using stop
  have hleft : p.elapsed s.clock < p.target := Nat.lt_of_not_le up
  by_cases pre : (s.preemptionPending w p).1
  · rw [show s.round w p first = (some .preempted, (s.preemptionPending w p).2) by
      simp [round, stop, up, pre]]
    exact .preempted hstop hleft pre
  · have hround : s.round w p first =
        ((s.preemptionPending w p).2.draw w p (first && p.forceClear)).2.follow w p first
          ((s.preemptionPending w p).2.draw w p (first && p.forceClear)).1 := by
      simp [round, stop, up, pre]
    rw [hround]
    exact .drew _ _ hstop hleft (by simpa using pre) (follow_followed w _ p first _)

variable {w s} {p : Showing} {first : Bool} {answer : Option Ending} {s' : Scheduler γ σ}

lemma Followed.steps {drawing : Drawing} (h : Followed w p first s drawing answer s') :
    Steps w (.drawn p first drawing, s) (afterRound p answer s') := by
  cases h with
  | failed error => exact .single (.failed s p first error)
  | empty hf =>
    obtain rfl : first = true := hf
    exact .single (.empty s p)
  | judged _ ending holds judged => exact .single (.judged s p first drawing ending holds judged)
  | rested _ holds stay => exact .single (.rested s p first drawing holds stay)

lemma Rounded.steps (h : Rounded w p first s answer s') :
    Steps w (.showing p first, s) (afterRound p answer s') := by
  cases h with
  | interrupted stop => exact .single (.interrupted s p first stop)
  | timeUp up => exact .single (.timeUp s p first up)
  | preempted going left pre => exact .single (.preempted s p first going left pre)
  | drew _ _ going left stay followed =>
    exact .head (.drew s p first going left stay) followed.steps

variable (w) (s)

lemma rounds_steps (p : Showing) (count : Nat) (first : Bool) :
    Steps w (.showing p first, s) (.over p.selection (rounds w p count first s).1,
      (rounds w p count first s).2.closed (rounds w p count first s).1) := by
  induction count generalizing first s with
  | zero => exact .single (.gaveUp s p first)
  | succ count ih =>
    have hround := (round_rounded w s p first).steps
    rw [rounds]
    cases he : (s.round w p first).1 with
    | some ending => simpa only [he, afterRound] using hround
    | none =>
      rw [he] at hround
      exact Relation.ReflTransGen.trans hround (ih (s.round w p first).2 false)

lemma present_steps (selection : Selection) (h : s.isPassedOver selection = false) :
    Steps w (.chosen selection, s)
      (.over selection (s.present w selection).1, (s.present w selection).2) := by
  rw [present]
  split
  next registered =>
    exact .head (.opened s selection h registered)
      (rounds_steps w _ (s.openShowing w selection).1 _ true)
  next unregistered =>
    exact .single (.unregistered s selection h (by simpa using unregistered))

lemma serve_eq (selection : Selection) :
    s.serve w selection =
      if (s.turnedTo selection).isPassedOver selection then
        (.skipped selection.screen, ((s.turnedTo selection).skipProvider
          selection.screen.provider).advanceRotation.paceAfterPass)
      else
        let ended := (s.turnedTo selection).present w selection
        ((ended.2.conclude w selection ended.1).1,
          (ended.2.conclude w selection ended.1).2.paceAfterPass) :=
  rfl

lemma serve_steps (selection : Selection) :
    Steps w (.chosen selection, s.turnedTo selection)
      (.done (s.serve w selection).1, (s.serve w selection).2) := by
  rw [serve_eq]
  split
  next passed => exact .single (.passedOver (s.turnedTo selection) selection passed)
  next kept =>
    exact .tail (present_steps w (s.turnedTo selection) selection (by simpa using kept))
      (.concluded _ selection _)

lemma tick_eq :
    s.tick w =
      if s.shouldStop w then (.interrupted, s.counted)
      else
        match (s.chosen w).1 with
        | none => (.idle, (s.chosen w).2.idle)
        | some selection => (s.chosen w).2.serve w selection :=
  rfl

theorem tick_steps : Steps w (.start, s) (.done (s.tick w).1, (s.tick w).2) := by
  rw [tick_eq]
  split
  next stop => exact .single (.halted s stop)
  next going =>
    have hstop : s.shouldStop w = false := by simpa using going
    split
    next none => exact .single (.idled s hstop none)
    next selection some =>
      exact .head (.chose s selection hstop some) (serve_steps w (s.chosen w).2 selection)

end Scheduler

end Marquee
