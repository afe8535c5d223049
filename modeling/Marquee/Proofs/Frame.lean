import Marquee.Frame.Limiter
import Marquee.Proofs.Scroll.Schedule
import Marquee.Proofs.Time

/-! The pacing of frames: which of them the limiter lets through, and how much time the clock gives to each,
whatever the instants they come at. -/

namespace Marquee

open Number

inductive PacingCall
  | frame (now : Instant)
  | reset

namespace PacingCall

variable {σ β : Type} {answer : σ → Instant → β × σ} {restart : σ → σ} {start : σ}

def step (answer : σ → Instant → β × σ) (restart : σ → σ) (run : List (Instant × β) × σ) :
    PacingCall → List (Instant × β) × σ
  | .frame now => (run.1 ++ [(now, (answer run.2 now).1)], (answer run.2 now).2)
  | .reset => ([], restart run.2)

def run (answer : σ → Instant → β × σ) (restart : σ → σ) (start : σ) (calls : List PacingCall) :
    List (Instant × β) × σ :=
  calls.foldl (step answer restart) ([], start)

lemma run_invariant {P : List (Instant × β) × σ → Prop} (initial : P ([], start))
    (kept : ∀ run call, P run → P (step answer restart run call)) (calls : List PacingCall) :
    P (run answer restart start calls) := by
  induction calls using List.reverseRecOn with
  | nil => exact initial
  | append_singleton calls call ih =>
    rw [run, List.foldl_append]
    exact kept _ call ih

end PacingCall

namespace FrameLimiter

variable {l : FrameLimiter} {interval : Option Span} {last now : Instant} {frames : List (Instant × Bool)}

def run (targetRate maxRate : Float) (calls : List PacingCall) : List (Instant × Bool) × FrameLimiter :=
  PacingCall.run accept reset (new targetRate maxRate).value calls

/-- A frame that comes sooner than the interval after an earlier one; if it comes before that one, no time has
passed. -/
def early (interval : Option Span) (last now : Instant) : Bool :=
  interval.any fun least => Instant.since now last < least

def greedy (interval : Option Span) : List Instant → List Bool
  | [] => []
  | first :: rest =>
    true :: (List.replicate (rest.takeWhile (early interval first)).length false ++
      greedy interval (rest.dropWhile (early interval first)))
termination_by frames => frames.length
decreasing_by exact Nat.lt_succ_of_le (List.length_dropWhile_le _ _)

def taken (frames : List (Instant × Bool)) : List Instant :=
  (frames.filter Prod.snd).map Prod.fst

def ahead (interval : Option Span) : Option Instant → List Instant → List Bool
  | none, frames => greedy interval frames
  | some last, frames =>
    List.replicate (frames.takeWhile (early interval last)).length false ++
      greedy interval (frames.dropWhile (early interval last))

lemma ahead_nil (last : Option Instant) : ahead interval last [] = [] := by
  cases last <;> simp [ahead, greedy]

lemma greedy_cons (first : Instant) (rest : List Instant) :
    greedy interval (first :: rest) = true :: ahead interval (some first) rest := by
  rw [greedy, ahead]

lemma ahead_early {last : Option Instant} (h : last.any (early interval · now) = true) (rest : List Instant) :
    ahead interval last (now :: rest) = false :: ahead interval last rest := by
  cases last with
  | none => cases h
  | some last =>
    have near : early interval last now = true := h
    rw [ahead, List.takeWhile_cons_of_pos near, List.dropWhile_cons_of_pos near, List.length_cons,
      List.replicate_succ]
    rfl

lemma ahead_taken {last : Option Instant} (h : last.any (early interval · now) = false) (rest : List Instant) :
    ahead interval last (now :: rest) = true :: ahead interval (some now) rest := by
  cases last with
  | none => exact greedy_cons now rest
  | some last =>
    have far : ¬ early interval last now = true := Bool.eq_false_iff.mp h
    rw [ahead, List.takeWhile_cons_of_neg far, List.dropWhile_cons_of_neg far]
    exact greedy_cons now rest

lemma tooSoon_eq (l : FrameLimiter) (now : Instant) :
    l.tooSoon now = l.lastFrame.any (early l.minInterval · now) := by
  rw [tooSoon]
  cases l.minInterval <;> cases l.lastFrame <;> simp [early]

theorem intervals_render (l : FrameLimiter) :
    l.targetInterval.Renders (1 / l.targetRate) ∧
      ∀ interval, l.minInterval = some interval → interval.Renders (1 / l.maxRate) := by
  refine ⟨Span.ofSeconds_renders _, fun interval limited => ?_⟩
  rw [minInterval] at limited
  split at limited
  · exact Option.some.inj limited ▸ Span.ofSeconds_renders _
  · cases limited

lemma minInterval_eq_none_iff (h : Settings.Range.ceiling.Contains (.number l.maxRate)) :
    l.minInterval = none ↔ l.maxRate == 0 := by
  have limited : l.minInterval = none ↔ ¬ 0 < l.maxRate := by simp [minInterval]
  rw [limited]
  constructor
  · intro low
    exact h.resolve_right fun rate => low (Settings.pos_of_slowest_le rate.2)
  · intro zero
    exact Double.not_lt_of_le (Double.beq_iff_le.mp zero).1

lemma ahead_none (last : Option Instant) (frames : List Instant) :
    ahead none last frames = List.replicate frames.length true := by
  induction frames generalizing last with
  | nil => exact ahead_nil last
  | cons now rest ih =>
    have free : last.any (early none · now) = false := by cases last <;> rfl
    rw [ahead_taken free, ih, List.length_cons, List.replicate_succ]

lemma taken_dropped (frames : List (Instant × Bool)) (now : Instant) :
    taken (frames ++ [(now, false)]) = taken frames := by
  simp [taken]

lemma taken_accepted (frames : List (Instant × Bool)) (now : Instant) :
    taken (frames ++ [(now, true)]) = taken frames ++ [now] := by
  simp [taken]

structure Selecting (ceiling : Float) (frames : List (Instant × Bool)) (l : FrameLimiter) : Prop where
  maxRate : l.maxRate = ceiling
  selected : ∀ rest, greedy l.minInterval (frames.map Prod.fst ++ rest) =
    frames.map Prod.snd ++ ahead l.minInterval l.lastFrame rest
  counted : (taken frames).length + l.dropped = frames.length
  lastFrame : l.lastFrame = (taken frames).getLast?

lemma selecting_reset (l : FrameLimiter) : Selecting l.maxRate [] l.reset :=
  ⟨rfl, fun _ => rfl, rfl, rfl⟩

lemma Selecting.accept {ceiling : Float} (h : Selecting ceiling frames l) (now : Instant) :
    Selecting ceiling (frames ++ [(now, (l.accept now).1)]) (l.accept now).2 := by
  have onward (answer : Bool) (rest : List Instant) (next : List Bool)
      (eq : ahead l.minInterval l.lastFrame (now :: rest) = answer :: next) :
      greedy l.minInterval ((frames ++ [(now, answer)]).map Prod.fst ++ rest) =
        (frames ++ [(now, answer)]).map Prod.snd ++ next := by
    simpa [eq] using h.selected (now :: rest)
  rw [FrameLimiter.accept]
  split
  next soon =>
    refine ⟨h.maxRate, fun rest => ?_, ?_, ?_⟩
    · exact onward false rest _ (ahead_early (l.tooSoon_eq now ▸ soon) rest)
    · rw [taken_dropped, List.length_append, ← h.counted]
      exact (Nat.add_assoc ..).symm
    · rw [taken_dropped]
      exact h.lastFrame
  next late =>
    have far := Bool.eq_false_iff.mpr late
    refine ⟨h.maxRate, fun rest => ?_, ?_, ?_⟩
    · exact onward true rest _ (ahead_taken (l.tooSoon_eq now ▸ far) rest)
    · rw [taken_accepted, List.length_append, List.length_append, ← h.counted]
      exact Nat.add_right_comm ..
    · rw [taken_accepted, List.getLast?_concat]

lemma run_selecting (targetRate maxRate : Float) (calls : List PacingCall) :
    Selecting (new targetRate maxRate).value.maxRate (run targetRate maxRate calls).1
      (run targetRate maxRate calls).2 := by
  refine PacingCall.run_invariant (P := fun run => Selecting _ run.1 run.2) ?_ ?_ calls
  · exact selecting_reset (new targetRate maxRate).value
  · intro run call h
    cases call with
    | frame now => exact h.accept now
    | reset => exact h.maxRate ▸ selecting_reset run.2

/-- What a limiter has done with the frames since its last reset. -/
structure Selects (l : FrameLimiter) (frames : List (Instant × Bool)) : Prop where
  answers : frames.map Prod.snd = greedy l.minInterval (frames.map Prod.fst)
  unlimited_iff : l.minInterval = none ↔ l.maxRate == 0
  unlimited : l.minInterval = none → ∀ frame ∈ frames, frame.2 = true
  counted : (taken frames).length + l.dropped = frames.length
  lastFrame : l.lastFrame = (taken frames).getLast?

lemma Selecting.selects {ceiling : Float} (h : Selecting ceiling frames l)
    (usable : Settings.Range.ceiling.Contains (.number ceiling)) : l.Selects frames := by
  have answers : frames.map Prod.snd = greedy l.minInterval (frames.map Prod.fst) := by
    simpa [ahead_nil] using (h.selected []).symm
  refine ⟨answers, minInterval_eq_none_iff (h.maxRate ▸ usable), fun unlimited frame hframe => ?_, h.counted,
    h.lastFrame⟩
  have all : frames.map Prod.snd = List.replicate (frames.map Prod.fst).length true := by
    rw [answers, unlimited]
    exact ahead_none none _
  exact List.eq_of_mem_replicate (all ▸ List.mem_map_of_mem hframe)

end FrameLimiter

namespace FrameClock

section Run

variable {α : Type} [Scalar α] {c : FrameClock α} {longest : α} {last now : Instant}
  {frames : List (Instant × α)}

def run (maxDelta : Float) (calls : List PacingCall) : List (Instant × α) × FrameClock α :=
  PacingCall.run tick reset (new maxDelta).value calls

structure Timed (longest : α) (frames : List (Instant × α)) : Prop where
  first : ∀ frame ∈ frames.head?, frame.2 = Scalar.ofNat 0
  later : frames.IsChain fun last next =>
    next.2 = Scalar.least (Scalar.seconds (Instant.since next.1 last.1)) longest

structure Timing (longest : α) (frames : List (Instant × α)) (c : FrameClock α) : Prop where
  maxDelta : c.maxDelta = longest
  lastTick : c.lastTick = frames.getLast?.map Prod.fst
  timed : Timed longest frames

lemma timing_start (longest : α) : Timing longest [] (start longest) :=
  ⟨rfl, rfl, nofun, .nil⟩

lemma tick_first (h : c.lastTick = none) (now : Instant) : (c.tick now).1 = Scalar.ofNat 0 := by
  rw [tick, h]

lemma tick_later (h : c.lastTick = some last) (now : Instant) :
    (c.tick now).1 = Scalar.least (Scalar.seconds (Instant.since now last)) c.maxDelta := by
  rw [tick, h]

lemma tick_clock (c : FrameClock α) (now : Instant) :
    (c.tick now).2.lastTick = some now ∧ (c.tick now).2.maxDelta = c.maxDelta := by
  rw [tick]
  split <;> exact ⟨rfl, rfl⟩

lemma Timing.tick (h : Timing longest frames c) (now : Instant) :
    Timing longest (frames ++ [(now, (c.tick now).1)]) (c.tick now).2 := by
  obtain ⟨lastTick, maxDelta⟩ := c.tick_clock now
  refine ⟨maxDelta.trans h.maxDelta, by rw [lastTick, List.getLast?_concat]; rfl, ?_⟩
  rcases frames.eq_nil_or_concat' with rfl | ⟨before, last, rfl⟩
  · rw [tick_first h.lastTick]
    exact ⟨fun frame hframe => Option.some.inj hframe ▸ rfl, .singleton _⟩
  · have follows : (c.tick now).1 = Scalar.least (Scalar.seconds (Instant.since now last.1)) longest := by
      rw [tick_later (by rw [h.lastTick, List.getLast?_concat]; rfl), h.maxDelta]
    refine ⟨fun frame hframe => h.timed.first frame ?_, ?_⟩
    · simpa using hframe
    · refine List.isChain_append.mpr ⟨h.timed.later, .singleton _, ?_⟩
      simpa using follows

lemma run_timing (maxDelta : Float) (calls : List PacingCall) :
    Timing (Scalar.ofFloat (Settings.positiveOr maxDelta defaultMaxDelta "max_delta").value : α)
      (run maxDelta calls).1 (run maxDelta calls).2 := by
  refine PacingCall.run_invariant (P := fun run => Timing _ run.1 run.2) (timing_start _) ?_ calls
  intro run call h
  cases call with
  | frame now => exact h.tick now
  | reset => exact h.maxDelta ▸ timing_start run.2.maxDelta

lemma head_or_related {β : Type} {R : β → β → Prop} {frames : List β} {frame : β} (chain : frames.IsChain R)
    (hframe : frame ∈ frames) : frame ∈ frames.head? ∨ ∃ last, R last frame := by
  obtain ⟨before, after, rfl⟩ := List.append_of_mem hframe
  rcases before.eq_nil_or_concat' with rfl | ⟨before, last, rfl⟩
  · exact .inl rfl
  · rw [List.append_assoc] at chain
    exact .inr ⟨last, (List.isChain_cons_cons.mp chain.right_of_append).1⟩

lemma Timed.given {frame : Instant × α} (h : Timed longest frames) (hframe : frame ∈ frames) :
    frame.2 = Scalar.ofNat 0 ∨ ∃ span, frame.2 = Scalar.least (Scalar.seconds span) longest := by
  rcases head_or_related h.later hframe with head | ⟨last, follows⟩
  · exact .inl (h.first frame head)
  · exact .inr ⟨_, follows⟩

end Run

section Doubles

lemma least_between {x y : Float} (hx : x ≤ x → 0 ≤ x) (hy : 0 ≤ y) (real : y.isFinite) :
    0 ≤ Scalar.least x y ∧ Scalar.least x y ≤ y := by
  have top : 0 ≤ y ∧ y ≤ y := ⟨hy, Double.le_refl real⟩
  rw [Scalar.least]
  split
  next number =>
    split
    next => exact top
    next below =>
      have low : 0 ≤ x := hx (of_decide_eq_true number)
      have less : x < y := Double.lt_of_not_le (Double.isNaN_of_le low) (Double.isNaN_of_le hy) fun le =>
        below (decide_eq_true le)
      exact ⟨low, Double.le_of_lt less⟩
  next => exact top

lemma Timed.double_between {longest : Float} {frames : List (Instant × Float)} (h : Timed longest frames)
    (nonneg : 0 ≤ longest) (real : longest.isFinite) :
    ∀ frame ∈ frames, 0 ≤ frame.2 ∧ frame.2 ≤ longest := by
  intro frame hframe
  rcases h.given hframe with zero | ⟨span, eq⟩
  · rw [zero]
    exact ⟨Double.le_refl isFinite_zero, nonneg⟩
  · rw [eq]
    exact least_between (nonneg_of_unsigned (unsigned_seconds span)) nonneg real

end Doubles

section Fractions

open Scroller (elapsed elapsed_self elapsed_nonneg elapsed_add)

variable {d : ℚ} {first : Instant × ℚ} {frames rest : List (Instant × ℚ)}

def Follows (d : ℚ) (last next : Instant × ℚ) : Prop :=
  next.2 = min (elapsed last.1 next.1) d

lemma exists_fractions {frames : List (Instant × Exact)} (h : Timed (.finite d) frames) :
    ∃ fractions : List (Instant × ℚ), frames = fractions.map (Prod.map id .finite) ∧
      (∀ frame ∈ fractions.head?, frame.2 = 0) ∧ fractions.IsChain (Follows d) := by
  have fraction : ∀ frame ∈ frames, frame ∈ Set.range (Prod.map (id : Instant → Instant) Exact.finite) := by
    intro frame hframe
    rcases h.given hframe with zero | ⟨span, eq⟩
    · exact ⟨(frame.1, 0), Prod.ext rfl zero.symm⟩
    · rw [Exact.seconds_eq, Exact.least_finite] at eq
      exact ⟨(frame.1, _), Prod.ext rfl eq.symm⟩
  obtain ⟨fractions, rfl⟩ : frames ∈ Set.range (List.map (Prod.map (id : Instant → Instant) Exact.finite)) := by
    rwa [Set.range_list_map]
  refine ⟨fractions, rfl, fun frame hframe => ?_, ?_⟩
  · have zero := h.first (frame.1, .finite frame.2) (by rw [List.head?_map, hframe]; rfl)
    exact Exact.finite.inj zero
  · refine ((List.isChain_map _).mp h.later).imp fun last next follows => ?_
    rw [Exact.seconds_eq, Exact.least_finite] at follows
    exact Exact.finite.inj follows

lemma follows_between (nonneg : 0 ≤ d) (start : ∀ frame ∈ frames.head?, frame.2 = 0)
    (chain : frames.IsChain (Follows d)) : ∀ frame ∈ frames, 0 ≤ frame.2 ∧ frame.2 ≤ d := by
  intro frame hframe
  rcases head_or_related chain hframe with head | ⟨last, follows⟩
  · rw [start frame head]
    exact ⟨le_rfl, nonneg⟩
  · rw [follows]
    exact ⟨le_min (elapsed_nonneg _ _) nonneg, min_le_right _ _⟩

lemma le_getLastD {now : Instant} {rest : List Instant} (sorted : (now :: rest).Pairwise (· ≤ ·)) :
    now ≤ rest.getLastD now := by
  rcases List.mem_cons.mp List.getLastD_mem_cons with same | later
  · exact same.ge
  · exact List.rel_of_pairwise_cons sorted later

lemma sum_follows (chain : (first :: rest).IsChain (Follows d))
    (sorted : ((first :: rest).map Prod.fst).Pairwise (· ≤ ·)) :
    let passed := elapsed first.1 ((rest.map Prod.fst).getLastD first.1)
    (rest.map Prod.snd).sum ≤ passed ∧
      (((first :: rest).map Prod.fst).IsChain (elapsed · · ≤ d) → (rest.map Prod.snd).sum = passed) := by
  induction rest generalizing first with
  | nil => simp [elapsed_self]
  | cons next rest ih =>
    intro passed
    obtain ⟨follows, chain⟩ := List.isChain_cons_cons.mp chain
    obtain ⟨atMost, exactly⟩ := ih chain sorted.of_cons
    have split : elapsed first.1 next.1 + elapsed next.1 ((rest.map Prod.fst).getLastD next.1) = passed := by
      refine (elapsed_add (List.rel_of_pairwise_cons sorted List.mem_cons_self) ?_).trans ?_
      · exact le_getLastD sorted.of_cons
      · rw [show passed = elapsed _ _ from rfl, List.map_cons, List.getLastD_cons]
    rw [List.map_cons, List.sum_cons, ← split]
    refine ⟨add_le_add (follows.trans_le (min_le_left _ _)) atMost, fun near => ?_⟩
    rw [List.map_cons, List.map_cons, List.isChain_cons_cons] at near
    rw [exactly near.2, follows, min_eq_left near.1]

/-- What a clock that gives at most `d` seconds at a time has given to the frames since its last reset. Of
frames in order, those after the first share the time that has passed; the first one has nothing yet, unless
there were others before. -/
structure Shares (d : ℚ) (frames : List (Instant × ℚ)) : Prop where
  first : ∀ frame ∈ frames.head?, frame.2 = 0
  range : ∀ frame ∈ frames, 0 ≤ frame.2 ∧ frame.2 ≤ d
  passed : ∀ before first rest after, frames = before ++ (first :: rest ++ after) →
    ((first :: rest).map Prod.fst).Pairwise (· ≤ ·) →
    let given := (rest.map Prod.snd).sum
    let passed := elapsed first.1 ((rest.map Prod.fst).getLastD first.1)
    given ≤ passed ∧ (((first :: rest).map Prod.fst).IsChain (elapsed · · ≤ d) → given = passed) ∧
      (before = [] → ((first :: rest).map Prod.snd).sum = given)

lemma shares_of_follows (nonneg : 0 ≤ d) (start : ∀ frame ∈ frames.head?, frame.2 = 0)
    (chain : frames.IsChain (Follows d)) : Shares d frames := by
  refine ⟨start, follows_between nonneg start chain, ?_⟩
  rintro before first rest after rfl sorted
  obtain ⟨atMost, exactly⟩ := sum_follows chain.right_of_append.left_of_append sorted
  refine ⟨atMost, exactly, ?_⟩
  rintro rfl
  rw [List.map_cons, List.sum_cons, start first rfl, zero_add]

end Fractions

end FrameClock

/-- Since the last reset, the limiter has taken the frames of the greedy selection and counted the others, and
the clock has given each frame a time within its limit. Frames in order get no more than the time that has
passed from the first to the last of them, and all of it if none comes later than the limit after the one
before. -/
theorem frames_are_paced (targetRate maxRate maxDelta : Float) (calls : List PacingCall) :
    let limited := FrameLimiter.run targetRate maxRate calls
    let timed : List (Instant × Float) × FrameClock Float := FrameClock.run maxDelta calls
    let exact : List (Instant × Exact) × FrameClock Exact := FrameClock.run maxDelta calls
    limited.2.Selects limited.1 ∧
    (∀ frame ∈ timed.1.head?, frame.2 = 0) ∧
    (∀ frame ∈ timed.1, 0 ≤ frame.2 ∧ frame.2 ≤ timed.2.maxDelta) ∧
    ∃ (d : ℚ) (frames : List (Instant × ℚ)), 0 < d ∧ exact.2.maxDelta = .finite d ∧
      exact.1 = frames.map (Prod.map id .finite) ∧ FrameClock.Shares d frames := by
  intro limited timed exact
  have usable := Scroller.usable_maxDelta maxDelta
  have doubles := FrameClock.run_timing (α := Float) maxDelta calls
  have fractions := FrameClock.run_timing (α := Exact) maxDelta calls
  obtain ⟨d, positive, value⟩ := Exact.ofFloat_pos usable.isFinite usable.1
  rw [value] at fractions
  obtain ⟨frames, eq, first, chain⟩ := FrameClock.exists_fractions fractions.timed
  refine ⟨?_, doubles.timed.first, ?_, d, frames, positive, fractions.maxDelta, eq, ?_⟩
  · have ceiling : Settings.Range.ceiling.Contains (.number (FrameLimiter.new targetRate maxRate).value.maxRate) :=
      Settings.ceilingOrNone_mended.usable
    exact (FrameLimiter.run_selecting targetRate maxRate calls).selects ceiling
  · rw [doubles.maxDelta]
    exact doubles.timed.double_between (Double.le_of_lt usable.1) usable.isFinite
  · exact FrameClock.shares_of_follows positive.le first chain

def unsteady : List PacingCall :=
  [.frame 7000000000, .reset, .frame 0, .frame 10000000, .frame 20000000, .frame 5000000, .frame 40000000]

theorem unsteady_frames_are_paced :
    FrameLimiter.greedy (some 20000000) [0, 10000000, 20000000, 5000000, 40000000] =
      [true, false, true, false, true] ∧
    (FrameLimiter.run 125 50 unsteady).2.dropped = 2 ∧
    (FrameLimiter.run 125 50 unsteady).2.lastFrame = some 40000000 ∧
    (FrameClock.run 0.05 unsteady).1.map Prod.snd =
      ([0, 1 / 100, 1 / 100, 0, 7 / 200] : List ℚ).map Exact.finite ∧
    ([1 / 100, 1 / 100] : List ℚ).sum = Scroller.elapsed 0 20000000 := by
  obtain ⟨selects, -, -, d, frames, -, longest, exact, shares⟩ := frames_are_paced 125 50 0.05 unsteady
  have limited : (FrameLimiter.run 125 50 unsteady).1 = [(0, true), (10000000, false), (20000000, true),
      (5000000, false), (40000000, true)] := by decide +kernel
  have interval : (FrameLimiter.run 125 50 unsteady).2.minInterval = some 20000000 := by decide +kernel
  let given : List (Instant × ℚ) :=
    [(0, 0), (10000000, 1 / 100), (20000000, 1 / 100), (5000000, 0), (40000000, 7 / 200)]
  have timed : (FrameClock.run 0.05 unsteady).1 = given.map (Prod.map id Exact.finite) := by decide +kernel
  have limit : (FrameClock.run 0.05 unsteady).2.maxDelta =
      Exact.finite (3602879701896397 / 72057594037927936) := by decide +kernel
  obtain rfl : given = frames :=
    (Function.injective_id.prodMap fun _ _ => Exact.finite.inj).list_map (timed.symm.trans exact)
  obtain rfl : d = 3602879701896397 / 72057594037927936 := Exact.finite.inj (longest.symm.trans limit)
  have answers := selects.answers
  have counted := selects.counted
  have lastFrame := selects.lastFrame
  rw [limited] at answers counted lastFrame
  rw [interval] at answers
  have near : [0, 10000000, 20000000].IsChain
      fun t t' => Scroller.elapsed t t' ≤ 3602879701896397 / 72057594037927936 := by decide +kernel
  refine ⟨answers.symm, Nat.add_left_cancel counted, lastFrame, by rw [timed]; rfl, ?_⟩
  exact (shares.passed [] (0, 0) [(10000000, 1 / 100), (20000000, 1 / 100)] _ rfl (by decide)).2.1 near

end Marquee
