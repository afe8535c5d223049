import Marquee.Proofs.Scheduler.Calls
import Marquee.Proofs.Showing.Pauses
import Marquee.Proofs.Showing.Watching

/-! The pace of a showing: when its frames are drawn, when it sleeps and for how long, when it asks whether
all of its content has been shown, and what ends it. -/

namespace Marquee

def Showing.MayLeave (p : Showing) (grace : Span) (time : Instant) : Prop :=
  p.airtime.dynamic ∧ p.airtime.least + grace.seconds ≤ (p.elapsed time).seconds ∧
    (p.elapsed time).seconds < p.airtime.target

lemma Showing.mayLeave {p : Showing} {grace : Span} {time now : Instant} (left : p.elapsed now < p.target)
    (asks : p.airtime.asksForCycle (p.elapsed time) grace) : p.MayLeave grace time := by
  simp only [Airtime.asksForCycle, Bool.and_eq_true, Bool.not_eq_true', decide_eq_false_iff_not,
    decide_eq_true_eq] at asks
  obtain ⟨⟨early, dynamic⟩, late⟩ := asks
  have positive : 0 < p.airtime.target := by
    by_contra nothing
    rw [Showing.target, Airtime.targetSpan, Span.ofSeconds_of_not_pos nothing] at left
    exact Nat.not_lt_zero _ left
  exact ⟨dynamic, late, Number.Double.lt_of_not_le (Number.Double.isNaN_of_le late)
    (Number.Double.isNaN_of_lt positive) early⟩

namespace Event

def isPacing : Event → Bool
  | drawn _ | slept _ _ | cycleAsked _ _ _ => true
  | _ => false

lemma not_isPacing {e : Event} {kind : MoveKind} (h : kind ∈ e.leftBy)
    (hk : kind ∉ [.drew, .slept, .inquired]) : e.isPacing = false := by
  cases e <;> simp_all [leftBy, isPacing]

end Event

namespace Scheduler

variable {γ σ : Type} {s s' s'' : Scheduler γ σ}

structure Adds (P : Event → Prop) (s s' : Scheduler γ σ) : Prop where
  rule : s'.rule = s.rule
  deadline : s'.deadline = s.deadline
  journal : ∃ new, s'.journal = new ++ s.journal ∧ ∀ e ∈ new, P e

namespace Adds

variable {P : Event → Prop}

lemma refl (s : Scheduler γ σ) : Adds P s s :=
  ⟨rfl, rfl, [], rfl, by simp⟩

lemma trans (h : Adds P s s') (h' : Adds P s' s'') : Adds P s s'' := by
  obtain ⟨new, hj, hnew⟩ := h.journal
  obtain ⟨new', hj', hnew'⟩ := h'.journal
  refine ⟨h'.rule.trans h.rule, h'.deadline.trans h.deadline, new' ++ new, ?_, ?_⟩
  · rw [hj', hj, List.append_assoc]
  · exact List.forall_mem_append.mpr ⟨hnew', hnew⟩

lemma log (s : Scheduler γ σ) {e : Event} (he : P e) : Adds P s (s.log e) :=
  ⟨rfl, rfl, [e], rfl, by simpa using he⟩

lemma note (s : Scheduler γ σ) (ns : List Notice) (quiet : ∀ e, e.isPacing = false → P e) :
    Adds P s (s.note ns) := by
  refine ⟨rfl, rfl, (ns.map Event.notice).reverse, rfl, fun e he => quiet e ?_⟩
  obtain ⟨n, -, rfl⟩ := List.mem_map.mp (List.mem_reverse.mp he)
  rfl

end Adds

variable {w : World σ} {p : Showing} {P : Event → Prop} {first : Bool} {answer : Option Ending}

inductive Judged (w : World σ) (p : Showing) (s : Scheduler γ σ) : Option Ending → Scheduler γ σ → Prop
  | timeUp : p.airtime.target ≤ (p.elapsed s.clock).seconds → Judged w p s (some .completed) s
  | unasked : Judged w p s none s
  | asked (complete : Bool) (ns : List Notice) :
      p.airtime.asksForCycle (p.elapsed s.clock) s.rule.grace →
      (complete = true ↔ (w.answers s.outside s.clock p.screen.provider).cycleComplete = .ok true) →
      Judged w p s (if complete then some .cycleComplete else none)
        ((s.note ns).log (.cycleAsked p.screen.provider complete s.clock))

lemma cycleComplete_iff (provider : ProviderId) (a : Except ProviderError Bool) :
    (AirtimeRule.cycleComplete provider a).value = true ↔ a = .ok true := by
  cases a with
  | ok done => cases done <;> simp [AirtimeRule.cycleComplete]
  | error e => simp [AirtimeRule.cycleComplete]

lemma judge_judged (w : World σ) (p : Showing) (s : Scheduler γ σ) :
    Judged w p s (s.judge w p).1 (s.judge w p).2 := by
  by_cases asks : p.airtime.asksForCycle (p.elapsed s.clock) s.rule.grace
  · have early : ¬ p.airtime.target ≤ (p.elapsed s.clock).seconds := by
      simp_all [Airtime.asksForCycle]
    by_cases known : s.catalog.hasProvider p.screen.provider
    · let told := AirtimeRule.cycleComplete p.screen.provider
        (w.answers s.outside s.clock p.screen.provider).cycleComplete
      have judged : s.judge w p = (if told.value then some .cycleComplete else none,
          (s.note told.notices).log (.cycleAsked p.screen.provider told.value s.clock)) := by
        cases complete : told.value <;>
          simp_all [judge, askCycle, Airtime.exitDecision, absorb, told]
      rw [judged]
      exact .asked told.value told.notices asks (cycleComplete_iff _ _)
    · have judged : s.judge w p = (none, s) := by
        simp [judge, askCycle, asks, known, Airtime.exitDecision, early]
      rw [judged]
      exact .unasked
  · have unasked : s.askCycle w p = (false, s) := if_neg asks
    by_cases late : p.airtime.target ≤ (p.elapsed s.clock).seconds
    · have judged : s.judge w p = (some .completed, s) := by
        simp [judge, unasked, Airtime.exitDecision, late]
      rw [judged]
      exact .timeUp late
    · have judged : s.judge w p = (none, s) := by
        simp [judge, unasked, Airtime.exitDecision, late]
      rw [judged]
      exact .unasked

lemma Judged.adds (h : Judged w p s answer s') (quiet : ∀ e, e.isPacing = false → P e)
    (asked : ∀ complete, p.airtime.asksForCycle (p.elapsed s.clock) s.rule.grace →
      (complete = true ↔ (w.answers s.outside s.clock p.screen.provider).cycleComplete = .ok true) →
      answer = (if complete then some .cycleComplete else none) →
      P (.cycleAsked p.screen.provider complete s.clock)) : Adds P s s' := by
  cases h with
  | timeUp | unasked => exact .refl s
  | asked complete ns asks told =>
    exact (Adds.note s ns quiet).trans (.log _ (asked complete asks told rfl))

lemma bounded_spec (s : Scheduler γ σ) {nap : Span} {d : Instant} (hd : s.deadline = some d)
    (some : s.bounded nap ≠ 0) : s.clock + s.bounded nap ≤ d := by
  have before (now d nap : Nat) (h : min nap (d - now) ≠ 0) : now + min nap (d - now) ≤ d := by
    omega
  rw [bounded, hd] at some ⊢
  exact before _ _ _ some

lemma pause_spec (p : Showing) (s : Scheduler γ σ) : s.pause p = 0 ∨
    s.clock + s.pause p ≤ p.started + p.target ∧ ∀ d, s.deadline = some d → s.clock + s.pause p ≤ d := by
  -- Differences of spans stop at nothing, so a showing that is already up would break the bound.
  have within (now started target interval nap : Nat) (left : ¬ target ≤ now - started)
      (short : nap ≤ min interval (target - (now - started))) : now + nap ≤ started + target := by
    omega
  by_cases nothing : s.pause p = 0
  · exact .inl nothing
  · have left : ¬ p.target ≤ p.elapsed s.clock := fun up => nothing (pause_eq_zero.mpr (.inr (.inl up)))
    exact .inr ⟨within _ _ _ _ _ left (bounded_le s _), fun d hd => bounded_spec s hd nothing⟩

lemma Judged.completed (h : Judged w p s (some .completed) s') :
    p.airtime.target ≤ (p.elapsed s'.clock).seconds := by
  generalize hr : some Ending.completed = answer at h
  cases h with
  | timeUp late => exact late
  | unasked => cases hr
  | asked complete => cases complete <;> cases hr

lemma Judged.cycleComplete (h : Judged w p s (some .cycleComplete) s') :
    p.airtime.asksForCycle (p.elapsed s'.clock) s'.rule.grace ∧
      (w.answers s'.outside s'.clock p.screen.provider).cycleComplete = .ok true := by
  generalize hr : some Ending.cycleComplete = answer at h
  cases h with
  | timeUp | unasked => cases hr
  | asked complete ns asks told =>
    cases complete with
    | false => cases hr
    | true => exact ⟨asks, told.mp rfl⟩

variable [HealthGate γ] {kind : MoveKind} {kinds : List MoveKind}

lemma Move.adds_left (h : Move w kind s s') (hk : kind ≠ .elapsed) (left : ∀ e, kind ∈ e.leftBy → P e) :
    Adds P s s' := by
  obtain ⟨new, hj, entries⟩ := h.entries
  exact ⟨h.kept.rule, h.kept.deadline (by simpa using hk), new, hj, fun e he => left e (entries e he).1⟩

lemma Moves.adds_left (h : Moves w kinds s s') (hk : .elapsed ∉ kinds)
    (left : ∀ kind ∈ kinds, ∀ e, kind ∈ e.leftBy → P e) : Adds P s s' :=
  h.preserve .refl (fun _ _ _ => .trans) fun kind hm _ _ move =>
    move.adds_left (fun he => hk (he ▸ hm)) (left kind hm)

lemma Moves.adds (h : Moves w kinds s s') (hk : ∀ kind ∈ kinds, kind ∉ [.drew, .slept, .inquired, .elapsed])
    (quiet : ∀ e, e.isPacing = false → P e) : Adds P s s' := by
  refine h.adds_left (fun hm => hk _ hm (by decide)) fun kind hm e he => quiet e ?_
  exact Event.not_isPacing he (by simp_all)

lemma Move.adds (h : Move w kind s s') (hk : kind ∉ [.drew, .slept, .inquired, .elapsed])
    (quiet : ∀ e, e.isPacing = false → P e) : Adds P s s' :=
  (Moves.single h).adds (by simpa using hk) quiet

lemma livePreempts_adds (quiet : ∀ e, e.isPacing = false → P e) (w : World σ) (p : Showing)
    (s : Scheduler γ σ) : Adds P s (s.livePreempts w p).2 := by
  cases looks : s.looks p with
  | false =>
    rw [livePreempts_of_not_looks w looks]
    exact .refl s
  | true =>
    obtain ⟨ns, found⟩ := livePreempts_of_looks w looks
    have sought : Adds P s (s.looked w) :=
      ((Move.looked (w := w) s).adds (by decide) quiet).trans
        ((Adds.note _ _ quiet).trans (.log _ (quiet _ rfl)))
    rw [found]
    exact sought.trans (.note _ _ quiet)

lemma preemptionPending_adds (quiet : ∀ e, e.isPacing = false → P e) (w : World σ) (p : Showing)
    (s : Scheduler γ σ) : Adds P s (s.preemptionPending w p).2 := by
  have heard : Adds P s (s.pollOnDemand w).2.checkExpiration.2 :=
    ((pollOnDemand_moves w s).andThen (checkExpiration_moves w _)).adds (by decide) quiet
  rw [preemptionPending]
  split
  · exact heard
  · exact heard.trans (livePreempts_adds quiet w p _)

def framed (w : World σ) (p : Showing) (first : Bool) (s : Scheduler γ σ) : Scheduler γ σ :=
  ((s.preemptionPending w p).2.draw w p (first && p.forceClear)).2

/-- What a round writes down, when `s` is the scheduler at its top. A frame is begun within the target and
before the deadline, and only if no stop is asked for. A sleep ends with both at the latest. Whether all
content has been shown is asked when it may end the showing, and only a clear yes does. -/
def Paces (w : World σ) (p : Showing) (first : Bool) (s : Scheduler γ σ) : Event → Prop
  | .drawn f => f.time = s.clock ∧ p.elapsed f.time < p.target ∧ (∀ d, s.deadline = some d → f.time < d) ∧
      w.stopRequested s.outside f.time = false
  | .slept time nap => nap = 0 ∨
      time + nap ≤ p.started + p.target ∧ ∀ d, s.deadline = some d → time + nap ≤ d
  | .cycleAsked provider complete time => provider = p.screen.provider ∧
      time = (s.framed w p first).clock ∧ p.MayLeave s.rule.grace time ∧
      (complete = true ↔ (w.answers (s.framed w p first).outside time provider).cycleComplete = .ok true) ∧
      (s.round w p first).1 = if complete then some .cycleComplete else none
  | _ => True

lemma Paces.of_not_isPacing {e : Event} (h : e.isPacing = false) : Paces w p first s e := by
  cases e <;> trivial

lemma acknowledge_eq (p : Showing) (first : Bool) (s : Scheduler γ σ) :
    (s.acknowledge p first).clock = s.clock ∧ (s.acknowledge p first).outside = s.outside ∧
      (s.acknowledge p first).rule = s.rule := by
  cases first <;> exact ⟨rfl, rfl, rfl⟩

lemma Followed.adds {top framed : Scheduler γ σ} {drawing : Drawing}
    (h : Followed w p first framed drawing answer s') (hf : top.framed w p first = framed)
    (result : (top.round w p first).1 = answer) (left : p.elapsed top.clock < p.target)
    (rule : framed.rule = top.rule) (deadline : framed.deadline = top.deadline) :
    Adds (Paces w p first top) framed s' := by
  have quiet : ∀ e : Event, e.isPacing = false → Paces w p first top e := fun _ => Paces.of_not_isPacing
  obtain ⟨clock, outside, kept⟩ := acknowledge_eq p first framed
  have praised : Adds (Paces w p first top) framed (framed.acknowledge p first) :=
    (acknowledge_moves w framed p first).adds (by decide) quiet
  have judged (same : ((framed.acknowledge p first).judge w p).1 = answer) :
      Adds (Paces w p first top) framed ((framed.acknowledge p first).judge w p).2 := by
    refine praised.trans ((judge_judged w p _).adds quiet fun complete asks told ending => ?_)
    rw [clock] at asks told ⊢
    rw [kept, rule] at asks
    rw [outside] at told
    refine ⟨rfl, congrArg Scheduler.clock hf.symm, Showing.mayLeave left asks, hf ▸ told, ?_⟩
    exact result.trans (same.symm.trans ending)
  cases h with
  | failed | empty => exact .refl _
  | judged _ ending _ same => exact judged same
  | rested _ _ same =>
    have maintained : Adds (Paces w p first top) framed
        (((framed.acknowledge p first).judge w p).2.maintain w) :=
      (judged same).trans ((Move.maintained (w := w) _).adds (by decide) quiet)
    refine maintained.trans ⟨rfl, rfl, [_], rfl, ?_⟩
    rw [List.forall_mem_singleton]
    have slept := pause_spec p (((framed.acknowledge p first).judge w p).2.maintain w)
    rwa [maintained.deadline, deadline] at slept

lemma Rounded.adds (h : Rounded w p first s answer s') (result : (s.round w p first).1 = answer) :
    Adds (Paces w p first s) s s' := by
  have checked : Adds (Paces w p first s) s (s.preemptionPending w p).2 :=
    preemptionPending_adds (fun _ => Paces.of_not_isPacing) w p s
  cases h with
  | interrupted | timeUp => exact .refl s
  | preempted => exact checked
  | drew _ _ going left stay followed =>
    have framed : Adds (Paces w p first s) s (s.framed w p first) := by
      refine checked.trans ⟨rfl, rfl, [_], rfl, ?_⟩
      rw [List.forall_mem_singleton]
      have clock : (s.preemptionPending w p).2.clock = s.clock :=
        (preemptionPending_moves w s p).clock_eq (by decide)
      rw [shouldStop, Bool.or_eq_false_iff] at going
      obtain ⟨unasked, undue⟩ := going
      refine ⟨clock, ?_, fun d hd => ?_, ?_⟩ <;> dsimp only <;> rw [clock]
      · exact left
      · simpa [hd] using undue
      · exact unasked
    exact framed.trans (followed.adds rfl result left framed.rule framed.deadline)

lemma Followed.completed {drawing : Drawing} (h : Followed w p first s drawing (some .completed) s') :
    p.airtime.target ≤ (p.elapsed s'.clock).seconds := by
  cases h with
  | judged _ _ _ ending => exact Judged.completed (ending ▸ judge_judged w p _)

lemma Followed.cycleComplete {drawing : Drawing}
    (h : Followed w p first s drawing (some .cycleComplete) s') :
    p.airtime.asksForCycle (p.elapsed s'.clock) s'.rule.grace ∧
      (w.answers s'.outside s'.clock p.screen.provider).cycleComplete = .ok true := by
  cases h with
  | judged _ _ _ ending => exact Judged.cycleComplete (ending ▸ judge_judged w p _)

lemma Rounded.completed (h : Rounded w p first s (some .completed) s') :
    p.target ≤ p.elapsed s'.clock ∨ p.airtime.target ≤ (p.elapsed s'.clock).seconds := by
  cases h with
  | timeUp up => exact .inl up
  | drew _ _ _ _ _ followed => exact .inr followed.completed

lemma Rounded.cycleComplete (h : Rounded w p first s (some .cycleComplete) s') :
    p.MayLeave s'.rule.grace s'.clock ∧
      (w.answers s'.outside s'.clock p.screen.provider).cycleComplete = .ok true := by
  cases h with
  | drew _ _ _ left _ followed =>
    obtain ⟨asks, told⟩ := followed.cycleComplete
    exact ⟨Showing.mayLeave left asks, told⟩

def tops (w : World σ) (p : Showing) : Nat → Bool → Scheduler γ σ → List (Bool × Scheduler γ σ)
  | 0, _, _ => []
  | n + 1, first, s =>
    (first, s) :: match (s.round w p first).1 with
      | some _ => []
      | none => tops w p n false (s.round w p first).2

def entries (w : World σ) (p : Showing) (top : Bool × Scheduler γ σ) : Journal :=
  let journal := (top.2.round w p top.1).2.journal
  journal.take (journal.length - top.2.journal.length)

lemma round_adds (w : World σ) (p : Showing) (first : Bool) (s : Scheduler γ σ) :
    Adds (Paces w p first s) s (s.round w p first).2 :=
  (round_rounded w s p first).adds rfl

lemma round_journal (w : World σ) (p : Showing) (first : Bool) (s : Scheduler γ σ) :
    (s.round w p first).2.journal = entries w p (first, s) ++ s.journal ∧
      ∀ e ∈ entries w p (first, s), Paces w p first s e := by
  obtain ⟨new, hj, hnew⟩ := (round_adds w p first s).journal
  have written : entries w p (first, s) = new := by
    simp [entries, hj]
  exact ⟨written ▸ hj, written ▸ hnew⟩

-- The latest entry comes first, and so do the entries of the last round.
lemma rounds_journal (w : World σ) (p : Showing) (n : Nat) (first : Bool) (s : Scheduler γ σ) :
    (rounds w p n first s).2.journal = (tops w p n first s).reverse.flatMap (entries w p) ++ s.journal := by
  induction n generalizing first s with
  | zero => rfl
  | succ n ih =>
    obtain ⟨hj, -⟩ := round_journal w p first s
    rw [rounds, tops]
    cases (s.round w p first).1 with
    | some ending => simpa using hj
    | none =>
      simp [ih, hj]

lemma mem_tops {n : Nat} {top : Bool × Scheduler γ σ} (h : top ∈ tops w p n first s) :
    top.2.deadline = s.deadline ∧ top.2.rule = s.rule := by
  induction n generalizing first s with
  | zero => cases h
  | succ n ih =>
    rw [tops] at h
    rcases List.mem_cons.mp h with rfl | later
    · exact ⟨rfl, rfl⟩
    cases goesOn : (s.round w p first).1 with
    | some ending => simp [goesOn] at later
    | none =>
      rw [goesOn] at later
      have round := round_adds w p first s
      exact ⟨(ih later).1.trans round.deadline, (ih later).2.trans round.rule⟩

lemma rounds_rule (w : World σ) (p : Showing) (n : Nat) (first : Bool) (s : Scheduler γ σ) :
    (rounds w p n first s).2.rule = s.rule := by
  induction n generalizing first s with
  | zero => rfl
  | succ n ih =>
    have rule := (round_adds w p first s).rule
    rw [rounds]
    cases (s.round w p first).1 with
    | some ending => exact rule
    | none => exact (ih _ _).trans rule

lemma rounds_ending (w : World σ) (p : Showing) (n : Nat) (first : Bool) (s : Scheduler γ σ) :
    let ended := rounds w p n first s
    ended.2.rule = s.rule ∧ (ended.1 = .stalled ∨
      ∃ first s', Rounded w p first s' (some ended.1) ended.2) := by
  refine ⟨rounds_rule w p n first s, (rounds_last w p n first s).imp_right ?_⟩
  rintro ⟨first', top, -, -, last⟩
  exact ⟨first', top, last⟩

/-- A showing keeps its pace, whatever time drawing and background work take and whoever sends commands:
its rounds write down what becomes them and make the calls that they write down, and it is not over early
without a reason. -/
theorem showing_keeps_pace (w : World σ) (p : Showing) (n : Nat) (first : Bool) (s : Scheduler γ σ) :
    let ended := rounds w p n first s
    ended.2.journal = (tops w p n first s).reverse.flatMap (entries w p) ++ s.journal ∧
    (∀ top ∈ tops w p n first s, top.2.deadline = s.deadline ∧ top.2.rule = s.rule ∧
      ∀ e ∈ entries w p top, Paces w p top.1 top.2 e) ∧
    (ended.1 = .completed →
      p.target ≤ p.elapsed ended.2.clock ∨ p.airtime.target ≤ (p.elapsed ended.2.clock).seconds) ∧
    (ended.1 = .cycleComplete → p.MayLeave s.rule.grace ended.2.clock ∧
      (w.answers ended.2.outside ended.2.clock p.screen.provider).cycleComplete = .ok true) ∧
    ∀ {κ : Type} (tell : WorldCall → Option κ) (told : σ → List κ), w.Records tell told →
      told ended.2.outside =
        (Journal.calls s.catalog ((tops w p n first s).reverse.flatMap (entries w p))).filterMap tell ++
          told s.outside := by
  intro ended
  obtain ⟨rule, last⟩ := rounds_ending w p n first s
  have written := rounds_journal w p n first s
  refine ⟨written, fun top mem => ?_, fun completed => ?_, fun complete => ?_,
    fun tell told records => (rounds_callsTold records p n first s).told_eq written⟩
  · obtain ⟨deadline, grace⟩ := mem_tops mem
    exact ⟨deadline, grace, (round_journal w p top.1 top.2).2⟩
  · obtain stalled | ⟨first', s', rounded⟩ := last
    · cases completed.symm.trans stalled
    · exact Rounded.completed (completed ▸ rounded)
  · obtain stalled | ⟨first', s', rounded⟩ := last
    · cases complete.symm.trans stalled
    · exact rule ▸ Rounded.cycleComplete (complete ▸ rounded)

end Scheduler

end Marquee
