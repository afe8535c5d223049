import Marquee.Proofs.Scroll.Calls

/-! Where the content can be: on itself in the modes that wrap, and up to the end of the pass in the one
that does not. -/

namespace Marquee.Scroller

open Number

variable {s s' : Scroller Exact} {settings : ScrollSettings} {v d x y p w : Rat} {n : Nat}

def wrapped (x w : Rat) : Rat :=
  x - w * ⌊x / w⌋

lemma wrapped_nonneg (hw : 0 < w) (x : Rat) : 0 ≤ wrapped x w := by
  have floor : w * ⌊x / w⌋ ≤ x := by
    rw [← le_div_iff₀' hw]
    exact Int.floor_le _
  rw [wrapped]
  linarith

lemma wrapped_lt (hw : 0 < w) (x : Rat) : wrapped x w < w := by
  have floor : x < w * (⌊x / w⌋ + 1) := by
    rw [← div_lt_iff₀' hw]
    exact Int.lt_floor_add_one _
  rw [wrapped]
  linarith

lemma wrapped_of_lt (low : 0 ≤ x) (high : x < w) : wrapped x w = x := by
  have hw : 0 < w := low.trans_lt high
  have floor : ⌊x / w⌋ = 0 := Int.floor_eq_zero_iff.mpr ⟨div_nonneg low hw.le, (div_lt_one hw).mpr high⟩
  rw [wrapped, floor, Int.cast_zero, mul_zero, sub_zero]

def passEnd (s : Scroller Exact) : Rat :=
  max (s.contentWidth - s.settings.viewportWidth) 0

lemma singleEnd_eq (s : Scroller Exact) : s.singleEnd = .finite s.passEnd :=
  Exact.greatest_finite

lemma normalized_modulo (mode : s.settings.loopMode = .modulo) (wide : 0 < s.contentWidth) (low : 0 ≤ x) :
    s.normalized (.finite x) =
      ⟨.finite (wrapped x s.contentWidth), decide ((s.contentWidth : Rat) ≤ x)⟩ := by
  have hw : (0 : Rat) < s.contentWidth := Nat.cast_pos.mpr wide
  unfold normalized
  rw [mode]
  dsimp only
  rw [Exact.ofNat_eq, Exact.le_finite, Exact.rem_finite hw]
  by_cases h : (s.contentWidth : Rat) ≤ x
  · have below : ¬ (s.contentWidth : Rat) ≤ x - s.contentWidth * ⌊x / s.contentWidth⌋ :=
      not_le.mpr (wrapped_lt hw x)
    rw [if_pos (decide_eq_true h), Exact.le_finite, if_neg (by simpa using below), decide_eq_true h]
    rfl
  · rw [if_neg (by simpa using h), wrapped_of_lt low (not_le.mp h), decide_eq_false h]

lemma normalized_continuous (mode : s.settings.loopMode = .continuous) (x : Rat) :
    s.normalized (.finite x) =
      ⟨.finite (if (s.contentWidth : Rat) ≤ x then 0 else x), decide ((s.contentWidth : Rat) ≤ x)⟩ := by
  unfold normalized
  rw [mode]
  dsimp only
  rw [Exact.ofNat_eq, Exact.le_finite]
  by_cases h : (s.contentWidth : Rat) ≤ x <;> simp [h]

lemma normalized_single (mode : s.settings.loopMode = .single) (x : Rat) :
    s.normalized (.finite x) = ⟨.finite (min x s.passEnd), decide (s.passEnd ≤ x)⟩ := by
  unfold normalized
  rw [mode]
  dsimp only
  rw [singleEnd_eq, Exact.le_finite]
  by_cases h : s.passEnd ≤ x
  · simp [h]
  · simp [h, (not_le.mp h).le]

lemma normalized_wrapping (mode : s.settings.loopMode ≠ .single) (wide : 0 < s.contentWidth) (low : 0 ≤ x) :
    ∃ y completed, s.normalized (.finite x) = ⟨.finite y, completed⟩ ∧ 0 ≤ y ∧ y < s.contentWidth := by
  have hw : (0 : Rat) < s.contentWidth := Nat.cast_pos.mpr wide
  cases hmode : s.settings.loopMode with
  | modulo => exact ⟨_, _, normalized_modulo hmode wide low, wrapped_nonneg hw x, wrapped_lt hw x⟩
  | single => exact absurd hmode mode
  | continuous =>
    refine ⟨_, _, normalized_continuous hmode x, ?_⟩
    split_ifs with h
    · exact ⟨le_refl 0, hw⟩
    · exact ⟨low, not_le.mp h⟩

/-- After `n` completed passes the content is at `p`, which is where the mode allows it to be. -/
structure Placed (s : Scroller Exact) (p : Rat) (n : Nat) : Prop where
  position : s.position = .finite p
  nonneg : 0 ≤ p
  wrapping : s.settings.loopMode ≠ .single →
    (s.contentWidth = 0 → p = 0) ∧ (0 < s.contentWidth → p < s.contentWidth)
  single : s.settings.loopMode = .single →
    p ≤ s.passEnd ∧ (s.halted = true → p = s.passEnd) ∧ n = if s.halted then 1 else 0

lemma placed_zero (position : s.position = .finite 0) (moving : s.halted = false) : s.Placed 0 0 := by
  refine ⟨position, le_refl 0, fun _ => ⟨fun _ => rfl, fun wide => Nat.cast_pos.mpr wide⟩, fun _ => ?_⟩
  rw [moving]
  exact ⟨le_max_right _ _, nofun, rfl⟩

lemma Placed.paced (h : s.Placed p n) (limiter : FrameLimiter) (clock : FrameClock Exact) :
    ({ s with limiter, clock } : Scroller Exact).Placed p n :=
  ⟨h.position, h.nonneg, h.wrapping, h.single⟩

/-- What calls do to the place of the content as long as none of them restarts. -/
structure Onward (s s' : Scroller Exact) : Prop where
  settings : s'.settings = s.settings
  position : s.settings.loopMode = .single →
    ∀ p, s.position = .finite p → ∃ p', s'.position = .finite p' ∧ p ≤ p'
  halted : s.halted = true → ∃ limiter clock, s' = { s with limiter, clock }

lemma Onward.paced (s : Scroller Exact) (limiter : FrameLimiter) (clock : FrameClock Exact) :
    s.Onward { s with limiter, clock } :=
  ⟨rfl, fun _ p hp => ⟨p, hp, le_refl p⟩, fun _ => ⟨limiter, clock, rfl⟩⟩

lemma Onward.trans {s'' : Scroller Exact} (h : s.Onward s') (h' : s'.Onward s'') : s.Onward s'' := by
  refine ⟨h'.settings.trans h.settings, fun mode p hp => ?_, fun halted => ?_⟩
  · obtain ⟨p', hp', le⟩ := h.position mode p hp
    obtain ⟨p'', hp'', le'⟩ := h'.position (h.settings ▸ mode) p' hp'
    exact ⟨p'', hp'', le.trans le'⟩
  · obtain ⟨limiter, clock, rfl⟩ := h.halted halted
    obtain ⟨limiter', clock', rfl⟩ := h'.halted halted
    exact ⟨limiter', clock', rfl⟩

lemma Placed.moved_wrapping (mode : s.settings.loopMode ≠ .single) (low : 0 ≤ y) (high : y < s.contentWidth)
    (wide : 0 < s.contentWidth) (sample : Exact) (completed : Bool) :
    (s.moved sample ⟨.finite y, completed⟩).Placed y n :=
  ⟨rfl, low, fun _ => ⟨fun h => absurd h wide.ne', fun _ => high⟩, fun h => absurd h mode⟩

lemma Placed.moved_single (placed : s.Placed p n) (moving : s.halted = false)
    (mode : s.settings.loopMode = .single) (low : 0 ≤ x) (sample : Exact) :
    (s.moved sample ⟨.finite (min x s.passEnd), decide (s.passEnd ≤ x)⟩).Placed (min x s.passEnd)
      (n + if decide (s.passEnd ≤ x) then 1 else 0) := by
  have first : n = 0 := by simpa [moving] using (placed.single mode).2.2
  refine ⟨rfl, le_min low (le_max_right _ _), fun h => absurd mode h, fun _ => ⟨min_le_right _ _, ?_, ?_⟩⟩
  · intro halted
    have arrived : s.passEnd ≤ x := by simpa [moved, mode] using halted
    exact min_eq_right arrived
  · rw [first]
    by_cases arrived : s.passEnd ≤ x <;> simp [moved, mode, arrived]

lemma Placed.advance (placed : s.Placed p n) (forward : s.Forward v d) (delta : Exact) :
    (∃ p', (s.advance delta).2.Placed p' (n + if (s.advance delta).1.cycleCompleted then 1 else 0)) ∧
      s.Onward (s.advance delta).2 := by
  by_cases still : s.halted = true ∨ s.contentWidth = 0
  · rw [advance_eq_still still]
    exact ⟨⟨p, placed⟩, .paced s s.limiter s.clock⟩
  rw [not_or, Bool.not_eq_true] at still
  have wide := Nat.pos_of_ne_zero still.2
  obtain ⟨x, q, range, ⟨qlow, -⟩, -, -, moved⟩ := forward.advance still.1 wide delta
  have ahead : p ≤ p + v * q := le_add_of_nonneg_right (mul_nonneg forward.onward qlow)
  have halted (h : s.halted = true) (s' : Scroller Exact) :
      ∃ limiter clock, s' = { s with limiter, clock } := absurd h (by simp [still.1])
  rw [placed.position, Exact.add_finite] at moved
  rw [moved]
  by_cases mode : s.settings.loopMode = .single
  · rw [normalized_single mode]
    refine ⟨⟨_, placed.moved_single still.1 mode (placed.nonneg.trans ahead) _⟩, ⟨rfl, ?_, (halted · _)⟩⟩
    intro _ p' hp'
    obtain rfl : p = p' := Exact.finite.inj (placed.position.symm.trans hp')
    exact ⟨_, rfl, le_min ahead (placed.single mode).1⟩
  · obtain ⟨y, completed, eq, low, high⟩ := normalized_wrapping mode wide (placed.nonneg.trans ahead)
    rw [eq]
    exact ⟨⟨y, .moved_wrapping mode low high wide _ _⟩, ⟨rfl, (absurd · mode), (halted · _)⟩⟩

lemma Placed.answer (placed : s.Placed p n) (forward : s.Forward v d) (call : ScrollCall) :
    (∃ p', (s.answer call).2.Placed p'
      (if call.restarts then 0 else n + if completes (s.answer call).1 then 1 else 0)) ∧
      (call.restarts = false → s.Onward (s.answer call).2) := by
  rcases s.answer_cases call with
    ⟨restarts, width, image, eq⟩ | ⟨restarts, ⟨limiter, eq⟩ | ⟨limiter, clock, delta, kept, eq⟩⟩
  · rw [eq, restarts]
    exact ⟨⟨0, placed_zero rfl rfl⟩, nofun⟩
  · rw [eq, restarts]
    exact ⟨⟨p, placed.paced limiter s.clock⟩, fun _ => .paced s limiter s.clock⟩
  · rw [eq, restarts]
    obtain ⟨placed', onward⟩ := (placed.paced limiter clock).advance (forward.paced limiter kept) delta
    exact ⟨placed', fun _ => (Onward.paced s limiter clock).trans onward⟩

lemma exists_placed (settings : ScrollSettings) (calls : List ScrollCall) :
    ∃ p, (after settings calls).Placed p (completions settings calls) := by
  obtain ⟨v, d, forward⟩ := exists_forward settings
  induction calls with
  | nil => exact ⟨0, placed_zero rfl rfl⟩
  | cons call calls ih =>
    obtain ⟨p, placed⟩ := ih
    exact (placed.answer (forward calls) call).1

lemma onward_append (settings : ScrollSettings) (calls : List ScrollCall) {later : List ScrollCall}
    (moves : ∀ call ∈ later, call.restarts = false) :
    (after settings calls).Onward (after settings (later ++ calls)) := by
  obtain ⟨v, d, forward⟩ := exists_forward settings
  induction later with
  | nil => exact .paced _ _ _
  | cons call later ih =>
    rw [List.forall_mem_cons] at moves
    obtain ⟨p, placed⟩ := exists_placed settings (later ++ calls)
    exact (ih moves.2).trans ((placed.answer (forward (later ++ calls)) call).2 moves.1)

/-- However a scroller is driven, by deltas of any kind and at any instants, and whatever content it is
given, the content is where the mode allows it to be: short of its width in the modes that wrap, and
between the start and the end of the pass in a single one. There it never goes back until it is restarted,
at most one step completes the pass, and from that step on the scroller is halted at the end and nothing
but its pacing changes. The cycles counted are the steps since the last restart that completed one, as far
as 32 bits hold their number. -/
theorem position_stays_in_range (settings : ScrollSettings) (calls : List ScrollCall) :
    let s := after settings calls
    ∃ p, s.position = .finite p ∧ 0 ≤ p ∧
      (settings.loopMode ≠ .single →
        (s.contentWidth = 0 → p = 0) ∧ (0 < s.contentWidth → p < s.contentWidth)) ∧
      (settings.loopMode = .single →
        let final : Rat := max 0 ((s.contentWidth : Rat) - settings.viewportWidth)
        p ≤ final ∧ completions settings calls ≤ 1 ∧
          (s.halted = true ↔ completions settings calls = 1) ∧ (s.halted = true → p = final) ∧
          ∀ later : List ScrollCall, (∀ call ∈ later, call.restarts = false) →
            let s' := after settings (later ++ calls)
            (∃ p', s'.position = .finite p' ∧ p ≤ p') ∧
              (s.halted = true → ∃ limiter clock, s' = { s with limiter, clock })) ∧
      s.cycles.toNat = completions settings calls % 2 ^ 32 := by
  intro s
  obtain ⟨p, placed⟩ := exists_placed settings calls
  have same : s.settings = settings.repaired.value := after_settings settings calls
  have mode : s.settings.loopMode = settings.loopMode := by
    rw [same]
    rfl
  have final : s.passEnd = max 0 ((s.contentWidth : Rat) - settings.viewportWidth) := by
    rw [passEnd, same, max_comm]
    rfl
  refine ⟨p, placed.position, placed.nonneg, fun wraps => placed.wrapping (mode ▸ wraps), fun single => ?_,
    by rw [cycles_eq, UInt32.toNat_ofNat']⟩
  obtain ⟨below, arrived, passes⟩ := placed.single (mode.trans single)
  rw [← final]
  refine ⟨below, ?_, ?_, arrived, fun later moves => ?_⟩
  · rw [passes]
    split <;> simp
  · rw [passes]
    cases s.halted <;> simp
  · have onward := onward_append settings calls moves
    exact ⟨onward.position (mode.trans single) p placed.position, onward.halted⟩

structure Leaping (s : Scroller Exact) (v d x : Rat) : Prop where
  forward : s.Forward v d
  unsmoothed : s.smoother.capacity = 1
  wide : 0 < s.contentWidth
  moving : s.halted = false
  mode : s.settings.loopMode = .continuous
  start : s.position = .finite 0
  low : 0 ≤ x
  high : x ≤ d
  leap : (s.contentWidth : Rat) ≤ v * x

lemma Leaping.advance (h : s.Leaping v d x) :
    (s.advance (.finite x)).1.cycleCompleted ∧ (s.advance (.finite x)).2.Leaping v d x := by
  have moved := h.forward.advance_plain h.moving h.wide h.unsmoothed h.low h.high
  rw [h.start, Exact.add_finite, zero_add, normalized_continuous h.mode, if_pos h.leap,
    decide_eq_true h.leap] at moved
  rw [moved]
  refine ⟨rfl, h.forward.moved h.low h.high _, (Smoother.push_capacity _ _).trans h.unsmoothed, h.wide, ?_,
    h.mode, rfl, h.low, h.high, h.leap⟩
  simp [Scroller.moved, h.mode]

lemma Leaping.completions {calls : List ScrollCall} (h : (after settings calls).Leaping v d x) (n : Nat) :
    (after settings (List.replicate n (.advance (.finite x)) ++ calls)).Leaping v d x ∧
      completions settings (List.replicate n (.advance (.finite x)) ++ calls) =
        completions settings calls + n := by
  induction n with
  | zero => exact ⟨h, rfl⟩
  | succ n ih =>
    obtain ⟨completed, leaping⟩ := ih.1.advance
    refine ⟨leaping, ?_⟩
    have moves : (ScrollCall.advance (.finite x)).restarts = false := rfl
    have counted : completes ((after settings (List.replicate n (.advance (.finite x)) ++ calls)).answer
        (.advance (.finite x))).1 := completed
    rw [List.replicate_succ, List.cons_append, Scroller.completions, moves, if_neg Bool.false_ne_true,
      if_pos counted, ih.2, Nat.add_assoc]

def ribbon : ScrollSettings :=
  { velocity := 1, viewportWidth := 1, loopMode := .continuous, maxDelta := 1, smoothing := 1, durationBuffer := 0 }

lemma ribbon_leaping : (after ribbon [.setWidth 1]).Leaping 1 1 1 := by
  obtain ⟨v, d, forward⟩ := exists_forward ribbon
  have values : (after ribbon [.setWidth 1]).velocity = .finite 1 ∧
      (after ribbon [.setWidth 1]).clock.maxDelta = .finite 1 := by
    decide +kernel
  obtain rfl : v = 1 := Exact.finite.inj ((forward _).velocity.symm.trans values.1)
  obtain rfl : d = 1 := Exact.finite.inj ((forward _).maxDelta.symm.trans values.2)
  exact ⟨forward _, rfl, by decide, rfl, rfl, rfl, zero_le_one, le_refl 1, by norm_num [after, answer, setWidth, reset]⟩

theorem full_round_of_passes_counts_as_none :
    let calls := List.replicate (2 ^ 32) (.advance (.finite 1)) ++ [.setWidth 1]
    completions ribbon calls = 2 ^ 32 ∧ (after ribbon calls).cycles.toNat = 0 := by
  intro calls
  have count : completions ribbon calls = 2 ^ 32 := (ribbon_leaping.completions (2 ^ 32)).2.trans (Nat.zero_add _)
  exact ⟨count, by rw [cycles_eq, count]; rfl⟩

end Marquee.Scroller
