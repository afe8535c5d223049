import Mathlib.Algebra.Order.Floor.Div
import Marquee.Proofs.Number.Error
import Marquee.Proofs.Rotation.Lapses
import Marquee.Proofs.Scheduler.Calls
import Marquee.Proofs.Session.Ending
import Marquee.Proofs.Showing.Pace

/-! The beat of a showing that nothing disturbs. If only its sleeps take time, it draws at every interval from
its start on, as often as its time has room for, and is over exactly when that is up. -/

namespace Marquee

inductive Beat
  | call (c : WorldCall)
  | nap (time : Instant) (span : Span)
  deriving DecidableEq

namespace Beat

def span : Beat → Span
  | nap _ span => span
  | call _ => 0

def frame? : Beat → Option Instant
  | call (.draw _ time) => some time
  | _ => none

def call? : Beat → Option WorldCall
  | call c => some c
  | nap _ _ => none

-- The latest call comes first, as in a journal.
def calls (beats : List Beat) : List WorldCall :=
  (beats.filterMap call?).reverse

def slept (beats : List Beat) : Span :=
  (beats.map span).sum

def round (screen : Screen) (works : Bool) (time : Instant) (nap : Span) : List Beat :=
  .call (.draw screen time) :: ((if works then [.call (.work time)] else []) ++ [.nap time nap])

/-- Rounds at every interval until the time that is left is up; the last sleep is cut short. -/
def regular (screen : Screen) (works : Bool) (interval : Span) (time : Instant) (left : Span) : List Beat :=
  (List.range (left ⌈/⌉ interval)).flatMap fun k =>
    round screen works (time + k * interval) (min interval (left - k * interval))

variable {screen : Screen} {works : Bool} {interval left : Span} {time : Instant} {xs ys : List Beat}

@[simp] lemma slept_nil : slept [] = 0 := rfl

@[simp] lemma slept_append : slept (xs ++ ys) = slept xs + slept ys := by
  simp [slept]

@[simp] lemma slept_round (nap : Span) : slept (round screen works time nap) = nap := by
  cases works <;> simp [slept, round, span]

lemma ceilDiv_eq_succ {n k : Nat} (hk : 1 ≤ k) (hn : 1 ≤ n) : n ⌈/⌉ k = (n - min k n) ⌈/⌉ k + 1 := by
  rw [Nat.ceilDiv_eq_add_pred_div, Nat.ceilDiv_eq_add_pred_div]
  rcases Nat.le_total n k with last | more
  · rw [Nat.min_eq_right last, Nat.sub_self, Nat.div_eq_of_lt (by omega : 0 + k - 1 < k)]
    exact Nat.div_eq_of_lt_le (by omega) (by omega)
  · rw [Nat.min_eq_left more, ← Nat.add_div_right _ hk]
    congr 1
    omega

@[simp] lemma regular_zero : regular screen works interval time 0 = [] := by
  simp [regular]

lemma regular_of_pos (positive : 1 ≤ interval) (some : 1 ≤ left) :
    regular screen works interval time left = round screen works time (min interval left) ++
      regular screen works interval (time + min interval left) (left - min interval left) := by
  rw [regular, ceilDiv_eq_succ positive some, List.range_succ_eq_map, List.flatMap_cons, List.flatMap_map]
  simp only [Nat.zero_mul, Nat.add_zero, Nat.sub_zero]
  congr 1
  rcases Nat.le_total left interval with last | more
  · simp [Nat.min_eq_right last]
  · rw [Nat.min_eq_left more, regular]
    refine List.flatMap_congr fun k _ => ?_
    rw [Nat.succ_mul, Nat.add_comm (k * interval), Nat.add_assoc, Nat.sub_add_eq]

lemma slept_regular (positive : 1 ≤ interval) (time : Instant) (left : Span) :
    slept (regular screen works interval time left) = left := by
  have shorter (n k : Nat) (hk : 1 ≤ k) (hn : 1 ≤ n) : n - min k n < n := by omega
  induction left using Nat.strong_induction_on generalizing time with
  | _ left ih =>
    rcases Nat.eq_zero_or_pos left with rfl | some
    · rw [regular_zero, slept_nil]
    · rw [regular_of_pos positive some, slept_append, slept_round, ih _ (shorter left interval positive some)]
      exact Nat.add_sub_of_le (Nat.min_le_right _ _)

lemma frames_regular : (regular screen works interval time left).filterMap frame? =
    (List.range (left ⌈/⌉ interval)).map fun k => time + k * interval := by
  have one (time : Instant) (nap : Span) : (round screen works time nap).filterMap frame? = [time] := by
    cases works <;> rfl
  rw [regular, List.filterMap_flatMap, List.map_eq_flatMap]
  simp only [one]

lemma draw_mem_regular {screen' : Screen} {time' : Instant}
    (h : .call (.draw screen' time') ∈ regular screen works interval time left) : screen' = screen := by
  obtain ⟨k, -, mem⟩ := List.mem_flatMap.mp h
  cases works <;> simp_all [round]

end Beat

namespace Event

def beat? : Event → Option Beat
  | drawn f => some (.call (.draw f.screen f.time))
  | cycleRestarted provider _ => some (.call (.restart provider))
  | maintained t => some (.call (.work t))
  | slept t span => some (.nap t span)
  | _ => none

lemma beat?_eq_none {e : Event} {kind : MoveKind} (h : kind ∈ e.leftBy)
    (hk : kind ∉ .opened :: Scheduler.timeKinds) : e.beat? = none := by
  cases e with
  | drawn | maintained | slept | cycleRestarted =>
    rw [List.mem_singleton.mp h] at hk
    exact absurd (by decide) hk
  | _ => rfl

end Event

namespace Journal

def beats (j : Journal) : List Beat :=
  j.reverse.filterMap Event.beat?

lemma beats_append (new j : Journal) : (new ++ j).beats = j.beats ++ new.beats := by
  simp [beats]

lemma beats_cons (e : Event) (j : Journal) : beats (e :: j) = j.beats ++ e.beat?.toList := by
  cases h : e.beat? <;> simp [beats, h]

lemma beats_eq_nil {new : Journal} (h : ∀ e ∈ new, e.beat? = none) : new.beats = [] :=
  List.filterMap_eq_nil_iff.mpr fun e he => h e (List.mem_reverse.mp he)

lemma beats_notices (ns : List Notice) : beats (ns.map Event.notice).reverse = [] := by
  simp [beats, Event.beat?]

lemma times_of_frames (j : Journal) : j.frames.map Frame.time = j.beats.filterMap Beat.frame? := by
  rw [frames, beats, List.map_filterMap, List.filterMap_filterMap]
  congr 1
  funext e
  cases e <;> rfl

lemma frames_eq_nil {j : Journal} (h : j.beats = []) : j.frames = [] := by
  have times := j.times_of_frames
  rwa [h, List.filterMap_nil, List.map_eq_nil_iff] at times

lemma calls_eq_of_beats {c : Catalog} {j : Journal}
    (registered : ∀ screen time, .call (.draw screen time) ∈ j.beats → c.hasProvider screen.provider) :
    j.calls c = Beat.calls j.beats := by
  rw [calls, Beat.calls, beats, List.filterMap_filterMap, List.filterMap_reverse, List.reverse_reverse]
  refine List.filterMap_congr fun e he => ?_
  cases e with
  | drawn f =>
    exact if_pos (registered f.screen f.time (List.mem_filterMap.mpr ⟨_, List.mem_reverse.mpr he, rfl⟩))
  | _ => rfl

end Journal

lemma Showing.target_le_elapsed {p : Showing} {now : Instant}
    (up : p.airtime.target ≤ (p.elapsed now).seconds) : p.target ≤ p.elapsed now := by
  by_contra left
  have short : p.elapsed now < Span.longest :=
    Nat.lt_of_lt_of_le (Nat.lt_of_not_le left) (Span.ofSeconds_le_longest _)
  exact left (Span.ofSeconds_le_of_le_seconds short up)

def Ending.isUndisturbed : Ending → Bool
  | completed | cycleComplete | stalled => true
  | preempted | noContent | failed _ | interrupted => false

namespace Scheduler

variable {γ σ : Type} {s s' s'' : Scheduler γ σ} {xs ys : List Beat}

structure Beats (xs : List Beat) (s s' : Scheduler γ σ) : Prop where
  deadline : s'.deadline = s.deadline
  clock : s.clock + Beat.slept xs ≤ s'.clock
  journal : ∃ new, s'.journal = new ++ s.journal ∧ new.beats = xs

namespace Beats

lemma refl (s : Scheduler γ σ) : Beats [] s s :=
  ⟨rfl, Nat.le_refl _, [], rfl, rfl⟩

lemma trans (h : Beats xs s s') (h' : Beats ys s' s'') : Beats (xs ++ ys) s s'' := by
  obtain ⟨new, hj, rfl⟩ := h.journal
  obtain ⟨new', hj', rfl⟩ := h'.journal
  refine ⟨h'.deadline.trans h.deadline, ?_, new' ++ new, by rw [hj', hj, List.append_assoc],
    Journal.beats_append new' new⟩
  rw [Beat.slept_append, ← Nat.add_assoc]
  exact Nat.le_trans (Nat.add_le_add_right h.clock _) h'.clock

lemma unique (h : Beats xs s s') (h' : Beats ys s s') : xs = ys := by
  obtain ⟨new, hj, rfl⟩ := h.journal
  obtain ⟨new', hj', rfl⟩ := h'.journal
  rw [List.append_cancel_right (hj.symm.trans hj')]

lemma tight (h : Beats xs s s') (h' : Beats ys s' s'') (ht : s''.clock = s.clock + Beat.slept (xs ++ ys)) :
    s'.clock = s.clock + Beat.slept xs ∧ s''.clock = s'.clock + Beat.slept ys := by
  have parts (a b c x y : Nat) (hab : a + x ≤ b) (hbc : b + y ≤ c) (hac : c = a + (x + y)) :
      b = a + x ∧ c = b + y := by
    omega
  rw [Beat.slept_append] at ht
  exact parts _ _ _ _ _ h.clock h'.clock ht

end Beats

lemma sleep_beats (s : Scheduler γ σ) (nap : Span) : Beats [.nap s.clock nap] s (s.sleep nap) :=
  ⟨rfl, Nat.le_refl _, [_], rfl, rfl⟩

lemma draw_beats (w : World σ) (p : Showing) (forceClear : Bool) (s : Scheduler γ σ) :
    Beats [.call (.draw p.screen s.clock)] s (s.draw w p forceClear).2 :=
  ⟨rfl, Nat.le_add_right _ _, [_], rfl, rfl⟩

lemma maintain_beats (w : World σ) (s : Scheduler γ σ) :
    Beats (if w.maintenance.isSome then [.call (.work s.clock)] else []) s (s.maintain w) := by
  rw [maintain]
  cases w.maintenance with
  | none => exact .refl s
  | some work => exact ⟨rfl, Nat.le_add_right _ _, [_], rfl, rfl⟩

variable [HealthGate γ] {w : World σ} {kinds : List MoveKind} {p : Showing} {first : Bool}
  {answer : Option Ending} {drawing : Drawing}

lemma Moves.beats (h : Moves w kinds s s') (hk : ∀ kind ∈ kinds, kind ∉ .opened :: timeKinds) : Beats [] s s' := by
  refine h.preserve .refl (fun _ _ _ => .trans) fun kind hm a b move => ?_
  obtain ⟨new, hj, left⟩ := move.entries
  have quiet := hk kind hm
  refine ⟨move.kept.deadline ?_, Nat.le_of_eq (move.kept.clock (mt (List.mem_cons_of_mem _) quiet)).symm, new, hj,
    Journal.beats_eq_nil fun e he => Event.beat?_eq_none (left e he).1 quiet⟩
  rintro elapsed
  exact quiet (List.mem_singleton.mp elapsed ▸ by decide)

lemma judged_beats (w : World σ) (p : Showing) (first : Bool) (s : Scheduler γ σ) :
    Beats [] s ((s.acknowledge p first).judge w p).2 :=
  (judged_moves w p first s).beats (by decide)

lemma Followed.beats (h : Followed w p first s drawing answer s') : ∃ xs, Beats xs s s' := by
  cases h with
  | failed | empty => exact ⟨[], .refl s⟩
  | judged => exact ⟨[], judged_beats w p first s⟩
  | rested =>
    exact ⟨_, (judged_beats w p first s).trans ((maintain_beats w _).trans (sleep_beats _ _))⟩

lemma Rounded.beats (h : Rounded w p first s answer s') : ∃ xs, Beats xs s s' := by
  cases h with
  | interrupted | timeUp => exact ⟨[], .refl s⟩
  | preempted => exact ⟨[], (preemptionPending_moves w s p).beats (by decide)⟩
  | drew _ _ _ _ _ followed =>
    obtain ⟨xs, beats⟩ := followed.beats
    exact ⟨_, ((preemptionPending_moves w s p).beats (by decide)).trans ((draw_beats w p _ _).trans beats)⟩

lemma rounds_beats (w : World σ) (p : Showing) (n : Nat) (first : Bool) (s : Scheduler γ σ) :
    ∃ xs, Beats xs s (rounds w p n first s).2 := by
  induction n generalizing first s with
  | zero => exact ⟨[], .refl s⟩
  | succ n ih =>
    obtain ⟨xs, round⟩ := (round_rounded w s p first).beats
    rw [rounds]
    cases (s.round w p first).1 with
    | some ending => exact ⟨xs, round⟩
    | none =>
      obtain ⟨ys, later⟩ := ih false (s.round w p first).2
      exact ⟨xs ++ ys, round.trans later⟩

def workAt (w : World σ) (time : Instant) : List Beat :=
  if w.maintenance.isSome then [.call (.work time)] else []

lemma Followed.rested_beats (h : Followed w p first s drawing none s') :
    ∃ woken, Beats (workAt w s.clock) s woken ∧ s' = woken.sleep (woken.pause p) := by
  cases h with
  | rested =>
    have clock : ((s.acknowledge p first).judge w p).2.clock = s.clock :=
      (judged_moves w p first s).clock_eq (by decide)
    have worked := (judged_beats w p first s).trans (maintain_beats w _)
    rw [clock] at worked
    exact ⟨_, worked, rfl⟩

lemma Rounded.rested_beats (h : Rounded w p first s none s') :
    ∃ t woken, Beats (.call (.draw p.screen s.clock) :: workAt w t) s woken ∧ s.clock ≤ t ∧ t ≤ woken.clock ∧
      s' = woken.sleep (woken.pause p) := by
  cases h with
  | drew _ _ _ _ _ followed =>
    have checked : Beats [] s (s.preemptionPending w p).2 :=
      (preemptionPending_moves w s p).beats (by decide)
    have clock : (s.preemptionPending w p).2.clock = s.clock :=
      (preemptionPending_moves w s p).clock_eq (by decide)
    have drawn := draw_beats w p (first && p.forceClear) (s.preemptionPending w p).2
    obtain ⟨woken, worked, rfl⟩ := followed.rested_beats
    rw [clock] at drawn
    have framed := checked.trans drawn
    exact ⟨_, woken, framed.trans worked, framed.clock, Nat.le_trans (Nat.le_add_right _ _) worked.clock, rfl⟩

omit [HealthGate γ] in
lemma pause_eq (clock : s'.clock = s.clock) (deadline : s'.deadline = s.deadline) (p : Showing) :
    s'.pause p = s.pause p := by
  rw [pause, pause, bounded, bounded, clock, deadline]

omit [HealthGate γ] in
lemma pause_cases (p : Showing) (s : Scheduler γ σ) :
    s.pause p = min p.interval (p.target - p.elapsed s.clock) ∨
      s.deadline.any fun d => d ≤ s.clock + s.pause p := by
  have cut (nap d now : Nat) : min nap (d - now) = nap ∨ d ≤ now + min nap (d - now) := by omega
  rw [pause, bounded]
  generalize min p.interval (p.target - p.elapsed s.clock) = nap
  cases s.deadline with
  | none => exact .inl rfl
  | some d => exact (cut nap d s.clock).imp_right decide_eq_true

lemma Rounded.left (h : Rounded w p first s none s') : p.elapsed s.clock < p.target := by
  cases h with
  | drew _ _ _ left => exact left

lemma Rounded.regular (h : Rounded w p first s none s') (beats : Beats xs s s')
    (tight : s'.clock = s.clock + Beat.slept xs) :
    xs = Beat.round p.screen w.maintenance.isSome s.clock (s.pause p) ∧ s'.clock = s.clock + s.pause p := by
  obtain ⟨t, woken, worked, start, done, rfl⟩ := h.rested_beats
  have slept := sleep_beats woken (woken.pause p)
  obtain rfl := beats.unique (worked.trans slept)
  have instant : woken.clock = s.clock := by
    refine (worked.tight slept tight).1.trans ?_
    cases hw : w.maintenance.isSome <;> simp [workAt, Beat.slept, Beat.span, hw]
  obtain rfl : t = s.clock := Nat.le_antisymm (instant ▸ done) start
  have pause := pause_eq instant worked.deadline p
  rw [instant, pause]
  refine ⟨rfl, ?_⟩
  rw [← pause, ← instant]
  rfl

lemma Followed.over {ending : Ending} (h : Followed w p first s drawing (some ending) s')
    (static : p.airtime.dynamic = false) (undisturbed : ending.isUndisturbed) :
    p.target ≤ p.elapsed s.clock := by
  cases h with
  | failed | empty => cases undisturbed
  | judged _ _ _ same =>
    have clock : ((s.acknowledge p first).judge w p).2.clock = s.clock :=
      (judged_moves w p first s).clock_eq (by decide)
    have judged := judge_judged w p (s.acknowledge p first)
    rw [same] at judged
    rcases judge_ending same with rfl | rfl
    · exact Showing.target_le_elapsed (clock ▸ judged.completed)
    · have dynamic := judged.cycleComplete.1
      simp [Airtime.asksForCycle, static] at dynamic

lemma Rounded.over {ending : Ending} (h : Rounded w p first s (some ending) s')
    (static : p.airtime.dynamic = false) (undisturbed : ending.isUndisturbed) (beats : Beats xs s s')
    (tight : s'.clock = s.clock + Beat.slept xs) :
    ending = .completed ∧ p.target ≤ p.elapsed s.clock ∧ xs = [] := by
  cases h with
  | interrupted | preempted => cases undisturbed
  | timeUp up => exact ⟨rfl, up, beats.unique (.refl s)⟩
  | drew _ _ _ left _ followed =>
    have up := followed.over static undisturbed
    have checked : Beats [] s (s.preemptionPending w p).2 :=
      (preemptionPending_moves w s p).beats (by decide)
    have framed := checked.trans (draw_beats w p (first && p.forceClear) _)
    obtain ⟨ys, later⟩ := followed.beats
    obtain rfl := beats.unique (framed.trans later)
    have instant := (framed.tight later tight).1
    rw [instant] at up
    exact absurd left (Nat.not_lt_of_le up)

lemma rounds_of_shouldStop {n : Nat} (stop : s.shouldStop w) (some : 1 ≤ n) :
    (rounds w p n first s).1 = .interrupted := by
  obtain ⟨n, rfl⟩ := Nat.exists_eq_add_of_le' some
  rw [rounds, round, if_pos stop]

lemma rounds_regular {n : Nat} (static : p.airtime.dynamic = false) (positive : 1 ≤ p.interval)
    (begun : p.started ≤ s.clock) (enough : p.target - p.elapsed s.clock < n)
    (undisturbed : (rounds w p n first s).1.isUndisturbed) (beats : Beats xs s (rounds w p n first s).2)
    (tight : (rounds w p n first s).2.clock = s.clock + Beat.slept xs) :
    (rounds w p n first s).1 = .completed ∧
      xs = Beat.regular p.screen w.maintenance.isSome p.interval s.clock (p.target - p.elapsed s.clock) := by
  induction n generalizing first s xs with
  | zero => exact absurd enough (Nat.not_lt_zero _)
  | succ n ih =>
    have rounded := round_rounded w s p first
    rw [rounds] at undisturbed beats tight ⊢
    generalize s.round w p first = result at rounded undisturbed beats tight ⊢
    obtain ⟨answer, s'⟩ := result
    cases answer with
    | some ending =>
      obtain ⟨rfl, up, rfl⟩ := rounded.over static undisturbed beats tight
      exact ⟨rfl, by rw [Nat.sub_eq_zero_of_le up, Beat.regular_zero]⟩
    | none =>
      have left := rounded.left
      have onward := rounded.onward
      obtain ⟨ys, round⟩ := rounded.beats
      obtain ⟨zs, later⟩ := rounds_beats w p n false s'
      obtain rfl := beats.unique (round.trans later)
      obtain ⟨tightRound, tightLater⟩ := round.tight later tight
      obtain ⟨rfl, clock⟩ := rounded.regular round tightRound
      have some : 1 ≤ p.target - p.elapsed s.clock := Nat.sub_pos_of_lt left
      have nap : s.pause p = min p.interval (p.target - p.elapsed s.clock) := by
        refine (pause_cases p s).resolve_right fun cut => ?_
        have stop : s'.shouldStop w := by
          rw [shouldStop, onward.deadline, clock, cut, Bool.or_true]
        dsimp only at undisturbed
        rw [rounds_of_shouldStop stop (Nat.le_of_lt_succ (Nat.lt_of_le_of_lt some enough))] at undisturbed
        cases undisturbed
      rw [nap] at clock ⊢
      have rest : p.target - p.elapsed s'.clock = p.target - p.elapsed s.clock -
          min p.interval (p.target - p.elapsed s.clock) := by
        have rest (now started target nap : Nat) (begun : started ≤ now) :
            target - (now + nap - started) = target - (now - started) - nap := by
          omega
        rw [clock]
        exact rest _ _ _ _ begun
      have fewer : p.target - p.elapsed s'.clock < n := by
        have fewer (left interval n : Nat) (hi : 1 ≤ interval) (hl : 1 ≤ left) (hn : left < n + 1) :
            left - min interval left < n := by
          omega
        rw [rest]
        exact fewer _ _ _ positive some enough
      obtain ⟨completed, regular⟩ := ih (Nat.le_trans begun onward.clock) fewer undisturbed later tightLater
      rw [regular, rest, clock]
      exact ⟨completed, (Beat.regular_of_pos positive some).symm⟩

lemma Followed.disturbed {ending : Ending} (h : Followed w p first s drawing (some ending) s')
    (he : ending.isUndisturbed = false) :
    s' = s ∧ (drawing.isFailure ∨ first = true ∧ drawing = .nothing) := by
  cases h with
  | failed => exact ⟨rfl, .inl rfl⟩
  | empty isFirst => exact ⟨rfl, .inr ⟨isFirst, rfl⟩⟩
  | judged _ _ _ same => rcases judge_ending same with rfl | rfl <;> cases he

lemma Rounded.disturbed {ending : Ending} (h : Rounded w p first s (some ending) s')
    (he : ending.isUndisturbed = false) (left : ending ∉ [.preempted, .interrupted]) :
    ∃ f mid, s'.journal = .drawn f :: (mid ++ s.journal) ∧ Journal.frames mid = [] ∧
      (f.drawing.isFailure ∨ first = true ∧ f.drawing = .nothing) := by
  cases h with
  | interrupted | preempted => exact absurd (by decide) left
  | timeUp => cases he
  | drew _ _ _ _ _ followed =>
    obtain ⟨mid, hj, silent⟩ := ((preemptionPending_moves w s p).beats (by decide)).journal
    obtain ⟨rfl, cause⟩ := followed.disturbed he
    exact ⟨_, mid, congrArg _ hj, Journal.frames_eq_nil silent, cause⟩

lemma rounds_undisturbed {n : Nat} {new : Journal}
    (hj : (rounds w p n first s).2.journal = new ++ s.journal)
    (left : (rounds w p n first s).1 ∉ [.preempted, .interrupted])
    (fine : ∀ f ∈ new.frames, f.drawing.isFailure = false)
    (shown : ∀ f, new.frames.head? = some f → f.drawing = .shown) :
    (rounds w p n first s).1.isUndisturbed := by
  by_contra disturbed
  rw [Bool.not_eq_true] at disturbed
  rcases rounds_last w p n first s with stalled | ⟨first', top, onward, isFirst, last⟩
  · rw [stalled] at disturbed
    cases disturbed
  obtain ⟨f, mid, journal, frameless, cause⟩ := last.disturbed disturbed left
  obtain ⟨before, hbefore, -⟩ := onward.journal
  have written : new = .drawn f :: (mid ++ before) := by
    refine List.append_cancel_right (hj.symm.trans ?_)
    rw [journal, hbefore, List.cons_append, List.append_assoc]
  rcases cause with failed | ⟨begins, nothing⟩
  · have fails := fine f (by simp [written, Journal.frames])
    rw [failed] at fails
    cases fails
  · obtain ⟨-, rfl⟩ := isFirst begins
    have none : before = [] := List.append_cancel_right (hbefore.symm.trans (List.nil_append _).symm)
    have only : new.frames = [f] := by
      have frames : new.frames = Journal.frames mid ++ [f] := by simp [written, none, Journal.frames]
      rw [frames, frameless, List.nil_append]
    have shows := shown f (by rw [only]; rfl)
    rw [nothing] at shows
    cases shows

lemma openShowing_beats (w : World σ) (selection : Selection) (s : Scheduler γ σ)
    (static : (s.airtimeFor w selection.screen).value.dynamic = false) :
    Beats [] s (s.openShowing w selection).2 ∧ (s.openShowing w selection).2.clock = s.clock := by
  have kept := (Move.opened (w := w) s selection).kept
  have clock := kept.clock (by decide)
  obtain ⟨⟨ns, ns', journal⟩, -⟩ := openShowing_cycle w selection s
  have onward : s.restartsCycle selection.screen (s.airtimeFor w selection.screen).value.dynamic = false := by
    rw [static]
    rfl
  rw [onward] at journal
  let noted := (ns'.map Event.notice).reverse ++ (ns.map Event.notice).reverse
  refine ⟨⟨kept.deadline (by decide), Nat.le_of_eq clock.symm,
    .opened selection (s.airtimeFor w selection.screen).value s.clock :: noted, ?_, ?_⟩, clock⟩
  · rw [List.cons_append, List.append_assoc]
    exact journal
  · rw [Journal.beats_cons, Journal.beats_append, Journal.beats_notices, Journal.beats_notices]
    rfl

lemma present_beats {selection : Selection} {during : Journal}
    (registered : s.catalog.hasProvider selection.screen.provider)
    (static : (s.airtimeFor w selection.screen).value.dynamic = false)
    (written : (s.present w selection).2.journal = during ++ s.journal) :
    let p := (s.openShowing w selection).1
    let opened := (s.openShowing w selection).2
    let ended := rounds w p (p.target + w.patience + 2) true opened
    s.present w selection = (ended.1, ended.2.log (.closed ended.1 ended.2.clock)) ∧
    Beats during.beats opened ended.2 ∧
    ∃ new, ended.2.journal = new ++ opened.journal ∧ during.frames = Journal.frames new := by
  intro p opened ended
  have presented : s.present w selection = (ended.1, ended.2.log (.closed ended.1 ended.2.clock)) :=
    if_pos registered
  rw [presented] at written
  obtain ⟨before, hbefore, silent⟩ := (openShowing_beats w selection s static).1.journal
  obtain ⟨xs, beats⟩ := rounds_beats w p (p.target + w.patience + 2) true opened
  obtain ⟨new, hnew, hxs⟩ := beats.journal
  have parts : during = .closed ended.1 ended.2.clock :: (new ++ before) := by
    refine List.append_cancel_right (written.symm.trans ?_)
    rw [List.cons_append, List.append_assoc, ← hbefore, ← hnew]
    rfl
  have sameBeats : during.beats = xs := by
    rw [parts, Journal.beats_cons, Journal.beats_append, silent, hxs]
    exact List.append_nil xs
  have sameFrames : during.frames = Journal.frames new := by
    have split : during.frames = Journal.frames before ++ Journal.frames new := by
      simp [parts, Journal.frames]
    rw [split, Journal.frames_eq_nil silent, List.nil_append]
  exact ⟨presented, sameBeats ▸ beats, new, hnew, sameFrames⟩

/-- A static showing that is not cut short, whose first frame shows something and of whose frames none fails,
is over exactly when its time is up if nothing but its own sleeps takes time. It has drawn at every interval
from its start on, and done the background work after each frame; the world got these calls and no others. -/
theorem undisturbed_showing_keeps_its_beat (w : World σ) (s : Scheduler γ σ) (selection : Selection)
    {during : Journal} (registered : s.catalog.hasProvider selection.screen.provider)
    (static : (s.airtimeFor w selection.screen).value.dynamic = false)
    (positive : 1 ≤ s.intervalFor w selection.screen)
    (written : (s.present w selection).2.journal = during ++ s.journal)
    (left : (s.present w selection).1 ∉ [.preempted, .interrupted])
    (fine : ∀ f ∈ during.frames, f.drawing.isFailure = false)
    (shown : ∀ f, during.frames.head? = some f → f.drawing = .shown)
    (asleep : (s.present w selection).2.clock = s.clock + Beat.slept during.beats) :
    let target := (s.airtimeFor w selection.screen).value.targetSpan
    let interval := s.intervalFor w selection.screen
    (s.present w selection).1 = .completed ∧ (s.present w selection).2.clock = s.clock + target ∧
    during.frames.map Frame.time =
      (List.range (target ⌈/⌉ interval)).map (fun k => s.clock + k * interval) ∧
    during.beats = Beat.regular selection.screen w.maintenance.isSome interval s.clock target ∧
    ∀ {κ : Type} (tell : WorldCall → Option κ) (told : σ → List κ), w.Records tell told →
      told (s.present w selection).2.outside =
        (Beat.calls (Beat.regular selection.screen w.maintenance.isSome interval s.clock target)).filterMap tell ++
          told s.outside := by
  intro target interval
  have made {κ : Type} (tell : WorldCall → Option κ) (told : σ → List κ) (records : w.Records tell told) :
      told (s.present w selection).2.outside = (during.calls s.catalog).filterMap tell ++ told s.outside :=
    (present_callsTold records selection s).told_eq written
  let p := (s.openShowing w selection).1
  let opened := (s.openShowing w selection).2
  let ended := rounds w p (p.target + w.patience + 2) true opened
  have clock : opened.clock = s.clock := (openShowing_beats w selection s static).2
  obtain ⟨presented, beats, new, hnew, sameFrames⟩ := present_beats registered static written
  rw [presented] at left asleep made ⊢
  have undisturbed : ended.1.isUndisturbed := by
    rw [sameFrames] at fine shown
    exact rounds_undisturbed hnew left fine shown
  have tight : ended.2.clock = opened.clock + Beat.slept during.beats := by
    rw [clock]
    exact asleep
  have start : p.elapsed opened.clock = 0 := Nat.sub_self _
  have enough : p.target - p.elapsed opened.clock < p.target + w.patience + 2 := by
    rw [start]
    exact Nat.lt_of_le_of_lt (Nat.le_add_right _ _) (Nat.lt_add_of_pos_right (by decide))
  obtain ⟨completed, regular⟩ :=
    rounds_regular static positive (Nat.le_refl _) enough undisturbed beats tight
  rw [start, clock, Nat.sub_zero] at regular
  replace regular : during.beats =
      Beat.regular selection.screen w.maintenance.isSome interval s.clock target := regular
  have calls : during.calls s.catalog =
      Beat.calls (Beat.regular selection.screen w.maintenance.isSome interval s.clock target) := by
    rw [Journal.calls_eq_of_beats fun screen time drawn => ?_, regular]
    rw [regular] at drawn
    exact Beat.draw_mem_regular drawn ▸ registered
  refine ⟨completed, ?_, ?_, regular, fun tell told records => calls ▸ made tell told records⟩
  · rwa [regular, Beat.slept_regular positive] at asleep
  · rw [Journal.times_of_frames, regular]
    exact Beat.frames_regular

def hummingWorld : World (List WorldCall) where
  answers _ _ _ := {}
  draw calls time screen _ := { reply := .ok true, cost := 0, world := .draw screen time :: calls }
  restartCycle calls provider := .restart provider :: calls
  maintenance := some fun calls time => (0, .work time :: calls)
  arrivals calls _ := ([], calls)
  stopRequested _ _ := false
  patience := 0

lemma hummingWorld_records : hummingWorld.Records some id where
  draw _ _ _ _ := rfl
  restart _ _ := rfl
  work _ h _ _ := by cases h; rfl
  arrivals _ _ := rfl

def humming : Setup AlwaysHealthy (List WorldCall) where
  catalog := { providers := ["clock"], screens := [⟨"time", "clock"⟩] }
  settings := { defaultDuration := 1, normalInterval := 0.4 }
  gate _ := .mk
  outside := []

theorem humming_clock_keeps_its_beat :
    let ended := humming.scheduler.present hummingWorld ⟨⟨"time", "clock"⟩, .rotation 0⟩
    ended.1 = .completed ∧ ended.2.clock = 1000000000 ∧
    ended.2.journal.frames.map Frame.time = [0, 400000000, 800000000] ∧
    ended.2.journal.beats = [
      .call (.draw ⟨"time", "clock"⟩ 0), .call (.work 0), .nap 0 400000000,
      .call (.draw ⟨"time", "clock"⟩ 400000000), .call (.work 400000000), .nap 400000000 400000000,
      .call (.draw ⟨"time", "clock"⟩ 800000000), .call (.work 800000000), .nap 800000000 200000000] ∧
    ended.2.outside = [
      .work 800000000, .draw ⟨"time", "clock"⟩ 800000000,
      .work 400000000, .draw ⟨"time", "clock"⟩ 400000000,
      .work 0, .draw ⟨"time", "clock"⟩ 0] := by
  intro ended
  have target : (humming.scheduler.airtimeFor hummingWorld ⟨"time", "clock"⟩).value.targetSpan =
      1000000000 := by
    decide +kernel
  have interval : humming.scheduler.intervalFor hummingWorld ⟨"time", "clock"⟩ = 400000000 := by
    decide +kernel
  obtain ⟨completed, clock, frames, beats, calls⟩ := undisturbed_showing_keeps_its_beat hummingWorld
    humming.scheduler ⟨⟨"time", "clock"⟩, .rotation 0⟩ (by decide) (by decide +kernel) (by decide +kernel)
    (List.append_nil ended.2.journal).symm (by decide +kernel) (by decide +kernel) (by decide +kernel)
    (by decide +kernel)
  have calls := calls some id hummingWorld_records
  rw [target] at clock
  rw [target, interval] at frames beats calls
  exact ⟨completed, clock, frames, beats, calls⟩

end Scheduler

end Marquee
