import Marquee.CommandLine
import Marquee.Proofs.Scheduler.Deadline
import Marquee.Proofs.Session.Fields
import Marquee.Proofs.Showing.Pace

/-! What the clock can count. A session that would last longer has no end, and every sleep is short; only
the end of a run is worked out without regard to it. -/

namespace Marquee

namespace Instant

variable {t d : Instant} {span : Span}

lemma lt_limit_of_add? (h : add? t span = some d) : d < limit := by
  unfold add? at h
  split at h
  next fits =>
    obtain rfl := Option.some.inj h
    exact fits
  next => cases h

end Instant

structure SessionStart.Asks (a : SessionStart) (seconds : Float) : Prop where
  duration : a.duration = some seconds
  loose : a.pinned = false
  finite : seconds.isFinite
  pos : 0 < seconds

/-- A session is over when it was asked to be. If the clock cannot count up to then, it has no end, and a
notice says so. -/
def SessionStart.EndsOrGoesOn (a : SessionStart) (seconds : Float) (started : Noted Session) : Prop :=
  started.value.isActive ∧
    ((∃ span, Span.ofSeconds? seconds = some span ∧ a.now + span < Instant.limit ∧
        started.value.expiresAt? = some (a.now + span) ∧ started.notices = []) ∨
      (∀ span, Span.ofSeconds? seconds = some span → Instant.limit ≤ a.now + span) ∧
        started.value.expiresAt? = none ∧ started.notices = [.durationOutOfRange seconds])

namespace Session

variable {s : Session} {a : SessionStart} {seconds : Float}

def InRange (s : Session) : Prop :=
  ∀ limit, s.limit? = some limit → limit.expiresAt < Instant.limit

lemma inRange_start (s : Session) (a : SessionStart) : (s.apply (.start a)).InRange := by
  intro limit bounded
  have bounds : a.Bounds limit := limitFor_eq_some_iff.mp bounded
  obtain ⟨span, -, reached⟩ := Option.bind_eq_some_iff.mp bounds.reached
  exact Instant.lt_limit_of_add? reached

lemma inRange_of_idle (h : s.running = none) : s.InRange := by
  intro limit bounded
  simp [limit?, h] at bounded

lemma InRange.reject (h : s.InRange) (refusal : Refusal) : (s.reject refusal).InRange :=
  h

theorem after_inRange (calls : List SessionCall) : (after calls).InRange := by
  induction calls with
  | nil => exact inRange_of_idle rfl
  | cons call earlier ih =>
    cases call with
    | start a => exact inRange_start _ a
    | finish event => exact inRange_of_idle rfl
    | breakOff refusal => exact inRange_of_idle rfl
    | reject refusal => exact ih.reject refusal

lemma limitFor_of_asks (h : a.Asks seconds) : limitFor a.duration a.pinned a.now =
    match (Span.ofSeconds? seconds).bind (Instant.add? a.now) with
    | some expiresAt => pure (some { seconds, expiresAt })
    | none => ⟨none, [.durationOutOfRange seconds]⟩ := by
  have above := (Number.pos_iff_not_le_zero h.finite).mp h.pos
  rw [h.duration, h.loose]
  exact if_neg (by simp [h.finite, above])

theorem start_ends_or_goes_on (s : Session) (h : a.Asks seconds) :
    a.EndsOrGoesOn seconds (s.start a.screen a.duration a.pinned a.resume a.now a.wall) := by
  have expiry : (s.start a.screen a.duration a.pinned a.resume a.now a.wall).value.expiresAt? =
      (limitFor a.duration a.pinned a.now).value.map SessionLimit.expiresAt := rfl
  have notices : (s.start a.screen a.duration a.pinned a.resume a.now a.wall).notices =
      (limitFor a.duration a.pinned a.now).notices := by
    simp [start]
  unfold SessionStart.EndsOrGoesOn
  rw [expiry, notices, limitFor_of_asks h]
  refine ⟨rfl, ?_⟩
  cases hs : Span.ofSeconds? seconds with
  | none => exact .inr ⟨nofun, rfl, rfl⟩
  | some span =>
    rcases Nat.lt_or_ge (a.now + span) Instant.limit with fits | far
    · left
      refine ⟨span, rfl, fits, ?_⟩
      rw [Option.bind_some, Instant.add?, if_pos fits]
      exact ⟨rfl, rfl⟩
    · right
      rw [Option.bind_some, Instant.add?, if_neg (Nat.not_lt_of_le far)]
      exact ⟨fun _ same => Option.some.inj same ▸ far, rfl, rfl⟩

lemma InRange.remaining (h : s.InRange) {now : Instant} {left : Span} (hleft : s.remaining now = some left) :
    left < Instant.limit := by
  rw [Session.remaining, expiresAt?] at hleft
  split at hleft
  · obtain ⟨expiry, bounded, rfl⟩ := Option.map_eq_some_iff.mp hleft
    obtain ⟨limit, some, rfl⟩ := Option.map_eq_some_iff.mp bounded
    exact Nat.lt_of_le_of_lt (Nat.sub_le _ _) (h limit some)
  · obtain rfl := Option.some.inj hleft
    decide +kernel

end Session

def Event.Restful (deadline : Option Instant) : Event → Prop
  | .slept time nap => nap ≤ Span.longest ∧ (nap = 0 ∨ ∀ d, deadline = some d → time + nap ≤ d)
  | _ => True

namespace Scheduler

variable {γ σ : Type} {s s' : Scheduler γ σ} {nap : Span} {deadline : Option Instant}

lemma sleep_adds (hd : s.deadline = deadline) (short : nap ≤ Span.longest) :
    Adds (Event.Restful deadline) s (s.sleep (s.bounded nap)) := by
  refine ⟨rfl, rfl, [_], rfl, ?_⟩
  rw [List.forall_mem_singleton]
  refine ⟨Nat.le_trans (bounded_le s nap) short, ?_⟩
  rw [or_iff_not_imp_left]
  exact fun some d last => bounded_spec s (hd.trans last) some

lemma idleSleep_adds (hd : s.deadline = deadline) : Adds (Event.Restful deadline) s s.idleSleep :=
  sleep_adds hd (Span.ofSeconds_le_longest _)

lemma paceAfterPass_adds (hd : s.deadline = deadline) : Adds (Event.Restful deadline) s s.paceAfterPass := by
  rw [paceAfterPass]
  split
  · have relaxed : Adds (Event.Restful deadline) s { s with idlePass := false } := ⟨rfl, rfl, [], rfl, by simp⟩
    exact relaxed.trans (idleSleep_adds hd)
  · exact .refl s

def Rested (s : Scheduler γ σ) : Prop :=
  ∀ time nap, .slept time nap ∈ s.journal → nap ≤ Span.longest

lemma Adds.rested (h : Adds (Event.Restful deadline) s s') (hs : s.Rested) : s'.Rested := by
  obtain ⟨new, hj, restful⟩ := h.journal
  intro time nap slept
  rw [hj, List.mem_append] at slept
  rcases slept with late | early
  · exact (restful _ late).1
  · exact hs time nap early

variable [HealthGate γ] {w : World σ} {kinds : List MoveKind}

lemma Moves.adds_awake (h : Moves w kinds s s') (hk : .elapsed ∉ kinds ∧ .slept ∉ kinds) :
    Adds (Event.Restful deadline) s s' := by
  refine h.adds_left hk.1 fun kind hm e left => ?_
  cases e with
  | slept =>
    obtain rfl := List.mem_singleton.mp left
    exact absurd hm hk.2
  | _ => trivial

lemma rest_adds (p : Showing) (hd : s.deadline = deadline) :
    Adds (Event.Restful deadline) s (s.rest w p) := by
  have maintained : Adds (Event.Restful deadline) s (s.maintain w) :=
    (Moves.single (.maintained s)).adds_awake (by decide)
  have short : min p.interval (p.target - p.elapsed (s.maintain w).clock) ≤ Span.longest :=
    Nat.le_trans (Nat.min_le_right _ _) (Nat.le_trans (Nat.sub_le _ _) (Span.ofSeconds_le_longest _))
  exact maintained.trans (sleep_adds (maintained.deadline.trans hd) short)

lemma conclude_adds {selection : Selection} {ending : Ending} (hd : s.deadline = deadline)
    (h : ending ≠ .preempted → s.Entitled selection) :
    Adds (Event.Restful deadline) s (s.conclude w selection ending).2 := by
  by_cases hb : BreaksOff (.over selection ending)
  · obtain ⟨hs, error, rfl, broken⟩ := conclude_broken w hb s
    rw [broken]
    exact (failSession_moves w error (h (by simp)) hs).adds_awake (by decide)
  by_cases content : ending = .noContent
  · have praised : Adds (Event.Restful deadline) s (s.reportSuccess selection.screen.provider) :=
      (Moves.single (.succeeded (w := w) s _)).adds_awake (by decide)
    rw [content, conclude_noContent]
    split
    · exact praised.trans ((Moves.single (.rotated (w := w) _)).adds_awake (by decide))
    · exact praised.trans (idleSleep_adds (praised.deadline.trans hd))
  · exact (conclude_awake w hb content).adds_awake (by decide)

variable {a b : Stage × Scheduler γ σ}

-- A step sleeps when it is over with a frame, with a choice that came to nothing, or with a showing.
lemma Step.adds_restful (h : Step w a b) (he : EntitledAt a.1 a.2) (hd : a.2.deadline = deadline) :
    Adds (Event.Restful deadline) a.2 b.2 := by
  cases h with
  | halted s => exact (Moves.single (.counted (w := w) s _)).adds_awake (by decide)
  | idled s =>
    have idled : Adds (Event.Restful deadline) s _ :=
      ((chosen_moves w s).andThen ((Moves.single (.turned _ .idle)).andThen (.single (.blanked _)))).adds_awake
        (by decide)
    exact idled.trans (idleSleep_adds (idled.deadline.trans hd))
  | chose s => exact ((chosen_moves w s).andThen (.single (.turned _ _))).adds_awake (by decide)
  | passedOver s selection =>
    have passed : Adds (Event.Restful deadline) s
        (s.skipProvider selection.screen.provider).advanceRotation :=
      ((Moves.single (.setAside (w := w) s _)).andThen (.single (.rotated _))).adds_awake (by decide)
    exact passed.trans (paceAfterPass_adds (passed.deadline.trans hd))
  | unregistered s => exact .refl s
  | opened s => exact (Moves.single (.opened s _)).adds_awake (by decide)
  | interrupted s | timeUp s | failed s | empty s | gaveUp s =>
    exact (Moves.single (.closed (w := w) s _)).adds_awake (by decide)
  | preempted s p =>
    exact ((preemptionPending_moves w s p).andThen (.single (.closed _ _))).adds_awake (by decide)
  | drew s p first going left stay =>
    have drawn : Step w (.showing p first, s) _ := .drew s p first going left stay
    exact (drawn.moves_of_isDrawn rfl he).adds_awake (by decide)
  | judged s p first =>
    exact ((judged_moves w p first s).andThen (.single (.closed _ _))).adds_awake (by decide)
  | rested s p first =>
    have judged : Adds (Event.Restful deadline) s _ := (judged_moves w p first s).adds_awake (by decide)
    exact judged.trans (rest_adds p (judged.deadline.trans hd))
  | concluded s =>
    have concluded := conclude_adds (w := w) hd he
    exact concluded.trans (paceAfterPass_adds (concluded.deadline.trans hd))

lemma tick_adds (w : World σ) (s : Scheduler γ σ) (hd : s.deadline = deadline) :
    Adds (Event.Restful deadline) s (s.tick w).2 :=
  (tick_steps w s).invariant_of_entitled (fun _ s' => Adds (Event.Restful deadline) s s')
    (fun _ _ step he h => h.trans (step.adds_restful he (h.deadline.trans hd))) trivial (.refl s)

lemma ticks_adds (w : World σ) (n : Nat) (s : Scheduler γ σ) (hd : s.deadline = deadline) :
    Adds (Event.Restful deadline) s (ticks w n s).2 := by
  induction n generalizing s with
  | zero => exact .refl s
  | succ n ih =>
    rw [ticks]
    split
    · exact .refl s
    · have ticked := tick_adds w s hd
      exact ticked.trans (ih _ (ticked.deadline.trans hd))

lemma ticks_ne_deadlineOutOfRange (w : World σ) (n : Nat) (s : Scheduler γ σ) :
    (ticks w n s).1 ≠ .deadlineOutOfRange := by
  induction n generalizing s with
  | zero =>
    rw [ticks]
    dsimp only
    split <;> exact RunEnd.noConfusion
  | succ n ih =>
    rw [ticks]
    split
    · exact RunEnd.noConfusion
    · exact ih _

lemma runFor_of_lt (w : World σ) {span : Span} (fits : s.clock + span < Instant.limit) :
    let done := ticks w w.patience { s with deadline := some (s.clock + span) }
    s.runFor w span = (done.1, { done.2 with deadline := none }.note [.ran span done.2.counters]) := by
  rw [runFor, Instant.add?, if_pos fits]

lemma runFor_of_le (w : World σ) {span : Span} (far : Instant.limit ≤ s.clock + span) :
    s.runFor w span = (.deadlineOutOfRange, s) := by
  rw [runFor, Instant.add?, if_neg (Nat.not_lt_of_le far)]

lemma runFor_out_of_range_iff (w : World σ) (s : Scheduler γ σ) (span : Span) :
    (s.runFor w span).1 = .deadlineOutOfRange ↔ Instant.limit ≤ s.clock + span := by
  rcases Nat.lt_or_ge (s.clock + span) Instant.limit with fits | far
  · rw [runFor_of_lt w fits]
    exact iff_of_false (ticks_ne_deadlineOutOfRange w _ _) (Nat.not_le_of_lt fits)
  · rw [runFor_of_le w far]
    exact iff_of_true rfl far

lemma runFor_adds (w : World σ) (s : Scheduler γ σ) (span : Span) :
    ∃ new, (s.runFor w span).2.journal = new ++ s.journal ∧
      ∀ e ∈ new, e.Restful (some (s.clock + span)) := by
  rcases Nat.lt_or_ge (s.clock + span) Instant.limit with fits | far
  · have ticked := ticks_adds w w.patience { s with deadline := some (s.clock + span) } rfl
    obtain ⟨new, hj, restful⟩ := ticked.journal
    rw [runFor_of_lt w fits]
    refine ⟨_ :: new, congrArg _ hj, ?_⟩
    rw [List.forall_mem_cons]
    exact ⟨trivial, restful⟩
  · rw [runFor_of_le w far]
    exact ⟨[], rfl, by simp⟩

lemma Moves.rested (h : Moves w kinds s s') (hk : .elapsed ∉ kinds ∧ .slept ∉ kinds) (hs : s.Rested) :
    s'.Rested := by
  have awake : Adds (Event.Restful none) s s' := h.adds_awake hk
  exact awake.rested hs

lemma Rested.perform (hs : s.Rested) (w : World σ) (op : Operation σ) : (s.perform w op).Rested := by
  cases op with
  | tick => exact (tick_adds w s rfl).rested hs
  | poll => exact (pollOnDemand_moves w s).rested (by decide) hs
  | expire => exact (checkExpiration_moves w s).rested (by decide) hs
  | advance => exact (Moves.single (.rotated (w := w) s)).rested (by decide) hs
  | meanwhile => exact hs

/-- However a scheduler was driven before, its session and every session that is started by hand are over
within what the clock can count, or never; no sleep takes more than seven days, and no difference of times
more than the clock has counted. What is left is the end of a run: the run does not begin if the clock cannot
count up to then. If it does begin, no sleep goes past its end. -/
theorem only_runs_leave_range (w : World σ) (u : Setup γ σ) (ops : List (Operation σ)) :
    let s := u.scheduler.performAll w ops
    (∀ session : Session, (session = s.session ∨ ∃ calls, session = Session.after calls) →
      session.InRange ∧ ∀ now left, session.remaining now = some left → left < Instant.limit) ∧
    (∀ (session : Session) (a : SessionStart) (seconds : Float), a.Asks seconds →
      a.EndsOrGoesOn seconds (session.start a.screen a.duration a.pinned a.resume a.now a.wall)) ∧
    (∀ time nap, .slept time nap ∈ s.journal → nap ≤ Span.longest) ∧
    (∀ earlier, Instant.since s.clock earlier ≤ s.clock) ∧
    ∀ span,
      ((s.runFor w span).1 = .deadlineOutOfRange ↔ Instant.limit ≤ s.clock + span) ∧
      ((s.runFor w span).1 = .deadlineOutOfRange → (s.runFor w span).2 = s) ∧
      ∃ new, (s.runFor w span).2.journal = new ++ s.journal ∧ ∀ time nap, .slept time nap ∈ new →
        nap ≤ Span.longest ∧ (nap = 0 ∨ time + nap ≤ s.clock + span) := by
  intro s
  obtain ⟨driven, called, -⟩ := session_comes_of_calls w u ops
  have rested : s.Rested :=
    performAll_keeps (fun op _ _ hs => hs.perform w op) (fun _ _ slept => absurd slept List.not_mem_nil)
  refine ⟨?_, fun session _ _ asks => session.start_ends_or_goes_on asks, rested,
    fun earlier => Nat.sub_le _ _, fun span => ⟨runFor_out_of_range_iff w s span, fun out => ?_, ?_⟩⟩
  · rintro session held
    obtain ⟨calls, rfl⟩ : ∃ calls, session = Session.after calls :=
      held.elim (fun same => ⟨driven, same.trans called⟩) id
    exact ⟨Session.after_inRange calls, fun _ _ => (Session.after_inRange calls).remaining⟩
  · rw [runFor_of_le w ((runFor_out_of_range_iff w s span).mp out)]
  · obtain ⟨new, hj, restful⟩ := runFor_adds w s span
    refine ⟨new, hj, fun time nap slept => ?_⟩
    obtain ⟨short, within⟩ := restful _ slept
    exact ⟨short, within.imp_right fun ends => ends _ rfl⟩

theorem long_run_does_not_begin :
    CommandLine.parse ["--seconds", "10000000000000000000"] =
      .ok (some { seconds := some 10000000000000000000 }) ∧
    visitedRun.setup.scheduler.runFor patientWorld (10000000000000000000 * Span.perSecond) =
      (.deadlineOutOfRange, visitedRun.setup.scheduler) ∧
    (Session.start {} ⟨"clock", "clock"⟩ (some 10000000000000000000) false none 0 0).value.isActive ∧
    (Session.start {} ⟨"clock", "clock"⟩ (some 10000000000000000000) false none 0 0).value.expiresAt? = none := by
  have far : Instant.limit ≤ visitedRun.setup.scheduler.clock + 10000000000000000000 * Span.perSecond := by
    decide +kernel
  exact ⟨rfl, runFor_of_le patientWorld far, rfl, by decide +kernel⟩

end Scheduler

end Marquee
