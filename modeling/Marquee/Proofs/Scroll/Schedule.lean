import Marquee.Proofs.Scroll.Bounds

/-! The place of the content follows from the time that has passed, and not from the frames in between: no
time is lost in a frame that is dropped, and no distance at the seam. -/

namespace Marquee.Scroller

open Number

variable {s : Scroller Exact} {settings : ScrollSettings} {v d x y w : Rat} {start last now : Instant}

lemma wrapped_add (hw : 0 < w) (x y : Rat) : wrapped (wrapped x w + y) w = wrapped (x + y) w := by
  have turns : (wrapped x w + y) / w = (x + y) / w - ⌊x / w⌋ := by
    rw [wrapped]
    field_simp
    ring
  rw [wrapped, turns, Int.floor_sub_intCast, Int.cast_sub, wrapped, wrapped]
  ring

def elapsed (start now : Instant) : Rat :=
  ((Instant.since now start : Nat) : Rat) / Span.perSecond

lemma elapsed_nonneg (start now : Instant) : 0 ≤ elapsed start now :=
  div_nonneg (Nat.cast_nonneg _) (Nat.cast_nonneg _)

lemma elapsed_self (start : Instant) : elapsed start start = 0 := by
  simp [elapsed, Instant.since]

lemma elapsed_add (h : start ≤ last) (h' : last ≤ now) :
    elapsed start last + elapsed last now = elapsed start now := by
  have sum : Instant.since last start + Instant.since now last = Instant.since now start :=
    (Nat.add_comm _ _).trans (Nat.sub_add_sub_cancel h' h)
  rw [elapsed, elapsed, elapsed, ← add_div, ← Nat.cast_add, sum]

def frames (s : Scroller Exact) : List Instant → List (Instant × ScrollStep Exact)
  | [] => []
  | now :: rest =>
    match s.update now with
    | (some step, next) => (now, step) :: next.frames rest
    | (none, next) => next.frames rest

lemma answer_capacity (s : Scroller Exact) (call : ScrollCall) :
    (s.answer call).2.smoother.capacity = s.smoother.capacity := by
  have advanced (s : Scroller Exact) (delta : Exact) :
      (s.advance delta).2.smoother.capacity = s.smoother.capacity := by
    unfold Scroller.advance
    split
    · rfl
    · exact Smoother.push_capacity _ _
  rcases s.answer_cases call with ⟨-, width, image, eq⟩ | ⟨-, ⟨limiter, eq⟩ | ⟨limiter, clock, delta, -, eq⟩⟩
  · rw [eq]
    rfl
  · rw [eq]
  · rw [eq]
    exact advanced _ delta

lemma after_capacity (settings : ScrollSettings) (calls : List ScrollCall) :
    (after settings calls).smoother.capacity = max 1 (min settings.smoothing Smoother.longest) := by
  induction calls with
  | nil => rfl
  | cons call calls ih => exact (answer_capacity _ call).trans ih

structure Steady (s : Scroller Exact) (v d : Rat) : Prop where
  forward : s.Forward v d
  mode : s.settings.loopMode = .modulo
  unsmoothed : s.smoother.capacity = 1
  wide : 0 < s.contentWidth
  moving : s.halted = false

lemma Steady.advance (h : s.Steady v d) (low : 0 ≤ x) (high : x ≤ d)
    (position : s.position = .finite (wrapped y s.contentWidth)) :
    let place : Exact := .finite (wrapped (y + v * x) s.contentWidth)
    ∃ completed, s.advance (.finite x) = (⟨place, completed⟩, s.moved (.finite x) ⟨place, completed⟩) := by
  have moved := h.forward.advance_plain h.moving h.wide h.unsmoothed low high
  have hw : (0 : Rat) < s.contentWidth := Nat.cast_pos.mpr h.wide
  have ahead : 0 ≤ wrapped y s.contentWidth + v * x :=
    add_nonneg (wrapped_nonneg hw y) (mul_nonneg h.forward.onward low)
  rw [position, Exact.add_finite, normalized_modulo h.mode h.wide ahead, wrapped_add hw] at moved
  exact ⟨_, moved⟩

lemma Steady.moved (h : s.Steady v d) (low : 0 ≤ x) (high : x ≤ d) (step : ScrollStep Exact) :
    (s.moved (.finite x) step).Steady v d := by
  refine ⟨h.forward.moved low high step, h.mode, (Smoother.push_capacity _ _).trans h.unsmoothed, h.wide, ?_⟩
  simp [Scroller.moved, h.mode]

lemma Steady.paced (h : s.Steady v d) (limiter : FrameLimiter) {clock : FrameClock Exact}
    (kept : clock.maxDelta = s.clock.maxDelta) : ({ s with limiter, clock } : Scroller Exact).Steady v d :=
  ⟨h.forward.paced limiter kept, h.mode, h.unsmoothed, h.wide, h.moving⟩

structure Tracks (s : Scroller Exact) (v d : Rat) (start last : Instant) : Prop where
  steady : s.Steady v d
  tick : s.clock.lastTick = some last
  position : s.position = .finite (wrapped (v * elapsed start last) s.contentWidth)

lemma Steady.land (h : s.Steady v d) (hstart : start ≤ last) (hlast : last ≤ now)
    (near : elapsed last now ≤ d) (tick : s.clock.lastTick = some now)
    (position : s.position = .finite (wrapped (v * elapsed start last) s.contentWidth)) :
    let landed := s.advance (.finite (elapsed last now))
    landed.1.position = .finite (wrapped (v * elapsed start now) s.contentWidth) ∧
      landed.2.contentWidth = s.contentWidth ∧ landed.2.Tracks v d start now := by
  obtain ⟨completed, moved⟩ := h.advance (elapsed_nonneg last now) near position
  rw [← mul_add, elapsed_add hstart hlast] at moved
  intro landed
  rw [show landed = _ from moved]
  exact ⟨rfl, rfl, h.moved (elapsed_nonneg last now) near _, tick, rfl⟩

lemma Tracks.update (h : s.Tracks v d start last) (hstart : start ≤ last) (hlast : last ≤ now) :
    (∃ limiter, s.update now = (none, { s with limiter })) ∨
      ∃ step next, s.update now = (some step, next) ∧ (elapsed last now ≤ d →
        step.position = .finite (wrapped (v * elapsed start now) s.contentWidth) ∧
          next.contentWidth = s.contentWidth ∧ next.Tracks v d start now) := by
  unfold Scroller.update
  dsimp only
  split
  · refine .inr ⟨_, _, rfl, fun near => ?_⟩
    have ticked : s.clock.tick now = (.finite (elapsed last now), (s.clock.tick now).2) ∧
        (s.clock.tick now).2.lastTick = some now ∧
        (s.clock.tick now).2.maxDelta = s.clock.maxDelta := by
      unfold FrameClock.tick
      rw [h.tick]
      dsimp only
      rw [Exact.seconds_eq, h.steady.forward.maxDelta, Exact.least_finite]
      exact ⟨congrArg (Exact.finite · , _) (min_eq_left near), rfl, rfl⟩
    rw [ticked.1]
    exact (h.steady.paced (s.limiter.accept now).2 ticked.2.2).land hstart hlast near ticked.2.1 h.position
  · exact .inl ⟨_, rfl⟩

lemma Steady.update_reset (h : s.reset.Steady v d) (start : Instant) :
    ∃ step next, s.reset.update start = (some step, next) ∧
      step.position = .finite (wrapped (v * elapsed start start) s.contentWidth) ∧
        next.contentWidth = s.contentWidth ∧ next.Tracks v d start start := by
  have wide : (0 : Rat) < s.contentWidth := Nat.cast_pos.mpr h.wide
  have origin : s.reset.position = .finite (wrapped (v * elapsed start start) s.contentWidth) := by
    rw [elapsed_self, mul_zero, wrapped_of_lt (le_refl 0) wide]
    rfl
  have accepted : s.reset.limiter.tooSoon start = false := by
    unfold FrameLimiter.tooSoon
    split
    next last => cases last
    · rfl
  have near : elapsed start start ≤ d := by
    rw [elapsed_self]
    exact h.forward.positive.le
  have ticked : s.reset.clock.tick start = (.finite (elapsed start start), (s.reset.clock.tick start).2) := by
    rw [elapsed_self]
    rfl
  have paced := h.paced (s.reset.limiter.accept start).2 (show (s.reset.clock.tick start).2.maxDelta = _ from rfl)
  refine ⟨_, _, ?_, paced.land (le_refl start) (le_refl start) near rfl origin⟩
  unfold Scroller.update
  rw [ticked]
  unfold FrameLimiter.accept
  rw [accepted]
  rfl

lemma Tracks.frames {instants : List Instant} (h : s.Tracks v d start last) (hstart : start ≤ last)
    (sorted : (last :: instants).Pairwise (· ≤ ·))
    (near : (last :: (s.frames instants).map Prod.fst).IsChain fun t t' => elapsed t t' ≤ d) :
    ∀ frame ∈ s.frames instants,
      frame.2.position = .finite (wrapped (v * elapsed start frame.1) s.contentWidth) := by
  induction instants generalizing s last with
  | nil => nofun
  | cons now rest ih =>
    have hlast : last ≤ now := List.rel_of_pairwise_cons sorted List.mem_cons_self
    rcases h.update hstart hlast with ⟨limiter, eq⟩ | ⟨step, next, eq, spec⟩
    · have dropped : s.frames (now :: rest) = Scroller.frames { s with limiter } rest := by
        rw [Scroller.frames, eq]
      rw [dropped] at near ⊢
      have tracks : Tracks { s with limiter } v d start last :=
        ⟨h.steady.paced limiter rfl, h.tick, h.position⟩
      exact ih tracks hstart (sorted.sublist ((List.sublist_cons_self now rest).cons_cons last)) near
    · have processed : s.frames (now :: rest) = (now, step) :: next.frames rest := by
        rw [Scroller.frames, eq]
      rw [processed, List.map_cons, List.isChain_cons_cons] at near
      obtain ⟨position, width, tracks⟩ := spec near.1
      rw [processed, List.forall_mem_cons, ← width]
      exact ⟨width ▸ position, ih tracks (hstart.trans hlast) sorted.of_cons near.2⟩

lemma Steady.frames {instants : List Instant} (h : s.reset.Steady v d)
    (sorted : (start :: instants).Pairwise (· ≤ ·))
    (near : ((s.reset.frames (start :: instants)).map Prod.fst).IsChain fun t t' => elapsed t t' ≤ d) :
    ∀ frame ∈ s.reset.frames (start :: instants),
      frame.2.position = .finite (wrapped (v * elapsed start frame.1) s.contentWidth) := by
  obtain ⟨step, next, eq, position, width, tracks⟩ := h.update_reset start
  have processed : s.reset.frames (start :: instants) = (start, step) :: next.frames instants := by
    rw [Scroller.frames, eq]
  rw [processed, List.map_cons] at near
  rw [processed, List.forall_mem_cons, ← width]
  exact ⟨width ▸ position, tracks.frames (le_refl start) sorted near⟩

/-- In the mode that goes round and round, without smoothing, a scroller that has just been restarted is
where the time since its first frame puts it, as long as no two frames in a row that it processes are
further apart than the longest time one frame may stand for. So two schedules that begin together and both
process a frame at some instant agree on it, however many frames come in between and whichever of them are
dropped. -/
theorem position_independent_of_frames (settings : ScrollSettings) (calls : List ScrollCall)
    (mode : settings.loopMode = .modulo) (unsmoothed : settings.smoothing ≤ 1)
    (wide : 0 < (after settings calls).contentWidth) :
    let s := (after settings calls).reset
    ∃ v d : Rat, 0 ≤ v ∧ 0 < d ∧ s.velocity = .finite v ∧ s.clock.maxDelta = .finite d ∧
      ∀ (start now : Instant) (xs ys : List Instant) (step step' : ScrollStep Exact),
        (start :: xs).Pairwise (· ≤ ·) → (start :: ys).Pairwise (· ≤ ·) →
        ((s.frames (start :: xs)).map Prod.fst).IsChain (fun t t' => elapsed t t' ≤ d) →
        ((s.frames (start :: ys)).map Prod.fst).IsChain (fun t t' => elapsed t t' ≤ d) →
        (now, step) ∈ s.frames (start :: xs) → (now, step') ∈ s.frames (start :: ys) →
          step.position = .finite (wrapped (v * elapsed start now) s.contentWidth) ∧
            step'.position = step.position := by
  intro s
  obtain ⟨v, d, forward⟩ := exists_forward settings
  have steady : s.Steady v d := by
    refine ⟨(forward calls).restart _ _, ?_, ?_, wide, rfl⟩
    · exact (congrArg ScrollSettings.loopMode (after_settings settings calls)).trans mode
    · refine (after_capacity settings calls).trans ?_
      omega
  refine ⟨v, d, steady.forward.onward, steady.forward.positive, steady.forward.velocity,
    steady.forward.maxDelta, ?_⟩
  intro start now xs ys step step' sorted sorted' near near' hstep hstep'
  have here := steady.frames sorted near _ hstep
  have there := steady.frames sorted' near' _ hstep'
  exact ⟨here, there.trans here.symm⟩

def brisk : ScrollSettings :=
  { smoothing := 1, maxRate := 10 }

theorem position_independent_of_frames_brisk :
    let s := (after brisk [.setWidth 7]).reset
    ∃ step step', (200000000, step) ∈ s.frames [0, 50000000, 100000000, 200000000] ∧
      (200000000, step') ∈ s.frames [0, 100000000, 150000000, 200000000] ∧
      step.position = .finite 3 ∧ step'.position = step.position := by
  intro s
  have first : (s.frames [0, 50000000, 100000000, 200000000]).map Prod.fst = [0, 100000000, 200000000] := by
    decide +kernel
  have second : (s.frames [0, 100000000, 150000000, 200000000]).map Prod.fst = [0, 100000000, 200000000] := by
    decide +kernel
  have velocity : s.velocity = .finite 50 := by decide +kernel
  have maxDelta : s.clock.maxDelta = .finite (3602879701896397 / 36028797018963968) := by decide +kernel
  obtain ⟨v, d, -, -, hv, hd, agree⟩ := position_independent_of_frames brisk [.setWidth 7] rfl (by decide)
    (by decide)
  obtain rfl : v = 50 := Exact.finite.inj (hv.symm.trans velocity)
  obtain rfl : d = 3602879701896397 / 36028797018963968 := Exact.finite.inj (hd.symm.trans maxDelta)
  have near : [0, 100000000, 200000000].IsChain
      fun t t' => elapsed t t' ≤ 3602879701896397 / 36028797018963968 := by
    decide +kernel
  have mem (frames : List (Instant × ScrollStep Exact)) (h : frames.map Prod.fst = [0, 100000000, 200000000]) :
      ∃ step, (200000000, step) ∈ frames := by
    obtain ⟨frame, hmem, hnow⟩ := List.mem_map.mp (show 200000000 ∈ frames.map Prod.fst by simp [h])
    exact ⟨frame.2, hnow ▸ hmem⟩
  obtain ⟨step, hstep⟩ := mem _ first
  obtain ⟨step', hstep'⟩ := mem _ second
  obtain ⟨here, same⟩ := agree 0 200000000 _ _ step step' (by decide) (by decide) (first ▸ near)
    (second ▸ near) hstep hstep'
  have place : wrapped (50 * elapsed 0 200000000) ((7 : Nat) : Rat) = 3 := by decide +kernel
  exact ⟨step, step', hstep, hstep', here.trans (congrArg Exact.finite place), same⟩

end Marquee.Scroller
