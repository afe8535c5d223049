import Marquee.Proofs.Scroll.Schedule

/-! The estimate of the time for one pass is enough for it. -/

namespace Marquee.Scroller

open Number

variable {s : Scroller Exact} {settings : ScrollSettings} {least greatest : Exact} {v d b t x : Rat}
  {deltas : List Rat}

def passLength (s : Scroller Exact) : Rat :=
  match s.settings.loopMode with
  | .single => s.passEnd
  | _ => s.contentWidth

lemma distance_eq (s : Scroller Exact) : s.distance = .finite s.passLength := by
  unfold distance passLength
  cases s.settings.loopMode with
  | single => exact singleEnd_eq s
  | _ => rfl

lemma passLength_nonneg (s : Scroller Exact) : 0 ≤ s.passLength := by
  unfold passLength
  cases s.settings.loopMode with
  | single => exact le_max_right _ _
  | _ => exact Nat.cast_nonneg _

lemma passLength_advance (s : Scroller Exact) (delta : Exact) :
    (s.advance delta).2.passLength = s.passLength := by
  obtain ⟨settings, width⟩ := advance_settings s delta
  rw [passLength, passLength, passEnd, passEnd, settings, width]

lemma normalized_spec (wide : 0 < s.contentWidth) (low : 0 ≤ x) :
    ((s.normalized (.finite x)).cycleCompleted = true ↔ s.passLength ≤ x) ∧
      (x < s.passLength → (s.normalized (.finite x)).position = .finite x) := by
  unfold passLength
  cases mode : s.settings.loopMode with
  | continuous =>
    rw [normalized_continuous mode]
    exact ⟨decide_eq_true_iff, fun before => congrArg _ (if_neg before.not_ge)⟩
  | single =>
    rw [normalized_single mode]
    exact ⟨decide_eq_true_iff, fun before => congrArg _ (min_eq_left before.le)⟩
  | modulo =>
    rw [normalized_modulo mode wide low]
    exact ⟨decide_eq_true_iff, fun before => congrArg _ (wrapped_of_lt low before)⟩

def advanceAll (s : Scroller Exact) (deltas : List Rat) : Scroller Exact :=
  deltas.foldl (fun s x => (s.advance (.finite x)).2) s

def passes (s : Scroller Exact) : List Rat → Nat
  | [] => 0
  | x :: rest =>
    passes (s.advance (.finite x)).2 rest + if (s.advance (.finite x)).1.cycleCompleted then 1 else 0

lemma passes_le_length (s : Scroller Exact) (deltas : List Rat) : s.passes deltas ≤ deltas.length := by
  induction deltas generalizing s with
  | nil => exact Nat.le_refl 0
  | cons x rest ih =>
    rw [passes, List.length_cons]
    exact Nat.add_le_add (ih _) (by split <;> decide)

lemma advanceAll_cycles (s : Scroller Exact) (deltas : List Rat) :
    (s.advanceAll deltas).cycles = s.cycles + UInt32.ofNat (s.passes deltas) := by
  induction deltas generalizing s with
  | nil => exact (UInt32.add_zero _).symm
  | cons x rest ih =>
    have later : (s.advanceAll (x :: rest)).cycles = ((s.advance (.finite x)).2.advanceAll rest).cycles := rfl
    rw [later, ih, advance_cycles, passes, UInt32.ofNat_add, UInt32.add_assoc, UInt32.add_comm (UInt32.ofNat _)]
    split <;> rfl

lemma isCycleComplete_advanceAll (fresh : s.cycles = 0) (deltas : List Rat) :
    (s.advanceAll deltas).isCycleComplete ↔ s.passes deltas % 2 ^ 32 ≠ 0 := by
  rw [isCycleComplete_iff, advanceAll_cycles, fresh, UInt32.zero_add, ← UInt32.toNat_inj.ne,
    UInt32.toNat_ofNat']
  rfl

structure Underway (s : Scroller Exact) (v d t : Rat) : Prop where
  forward : s.Forward v d
  unsmoothed : s.smoother.capacity = 1
  wide : 0 < s.contentWidth
  moving : s.halted = false
  position : s.position = .finite (v * t)
  since : 0 ≤ t

lemma Underway.advance (h : s.Underway v d t) (low : 0 ≤ x) (high : x ≤ d) :
    (s.advance (.finite x)).1.cycleCompleted ∨
      (s.advance (.finite x)).2.Underway v d (t + x) ∧ v * (t + x) < s.passLength := by
  have time : 0 ≤ t + x := add_nonneg h.since low
  obtain ⟨completed, before⟩ := normalized_spec h.wide (mul_nonneg h.forward.onward time)
  have moved := h.forward.advance_plain h.moving h.wide h.unsmoothed low high
  rw [h.position, Exact.add_finite, ← mul_add] at moved
  rw [moved]
  by_cases arrived : s.passLength ≤ v * (t + x)
  · exact .inl (completed.mpr arrived)
  · right
    have incomplete := mt completed.mp arrived
    rw [not_le] at arrived
    refine ⟨⟨h.forward.moved low high _, (Smoother.push_capacity _ _).trans h.unsmoothed, h.wide, ?_,
      before arrived, time⟩, arrived⟩
    simp [Scroller.moved, incomplete]

lemma passes_pos (completed : (s.advance (.finite x)).1.cycleCompleted) (rest : List Rat) :
    0 < s.passes (x :: rest) := by
  rw [passes, if_pos completed]
  exact Nat.succ_pos _

lemma Underway.advanceAll (h : s.Underway v d t) (before : v * t < s.passLength)
    (range : ∀ x ∈ deltas, 0 ≤ x ∧ x ≤ d) :
    0 < s.passes deltas ∨ v * (t + deltas.sum) < s.passLength := by
  induction deltas generalizing s t with
  | nil => simpa using Or.inr before
  | cons x rest ih =>
    rw [List.forall_mem_cons] at range
    rcases h.advance range.1.1 range.1.2 with complete | ⟨underway, before⟩
    · exact .inl (passes_pos complete rest)
    · rw [← passLength_advance s (.finite x)] at before ⊢
      rw [List.sum_cons, ← add_assoc]
      exact (ih underway before range.2).imp_left fun later => Nat.add_pos_left later _

theorem Underway.completes (h : s.Underway v d 0) (some : deltas ≠ []) (range : ∀ x ∈ deltas, 0 ≤ x ∧ x ≤ d)
    (enough : s.passLength ≤ v * deltas.sum) : 0 < s.passes deltas := by
  cases deltas with
  | nil => exact absurd rfl some
  | cons x rest =>
    rw [List.forall_mem_cons] at range
    rcases h.advance range.1.1 range.1.2 with complete | ⟨underway, before⟩
    · exact passes_pos complete rest
    · rw [← passLength_advance s (.finite x)] at before enough
      rw [List.sum_cons, ← zero_add (x + rest.sum), ← add_assoc] at enough
      exact Nat.add_pos_left ((underway.advanceAll before range.2).resolve_right enough.not_gt) _

lemma unclampedEstimate_eq (velocity : s.velocity = .finite v) (nonneg : 0 ≤ b)
    (buffer : (Scalar.ofFloat s.settings.durationBuffer : Exact) = .finite b) :
    s.unclampedEstimate = .finite (s.passLength / v * (1 + b)) := by
  rw [unclampedEstimate, buffer, distance_eq, velocity]
  simp [nonneg]

lemma estimate?_spec (velocity : s.velocity = .finite v) {u : Rat} (time : s.unclampedEstimate = .finite u)
    (hleast : least ≠ .nan) (hgreatest : greatest ≠ .nan) :
    ∃ e, s.estimate? least greatest = some e ∧ Scalar.le least e ∧
      Scalar.le e (Scalar.greatest least greatest) ∧
      (0 < v → Scalar.le (.finite u) greatest → Scalar.le (.finite u) e) := by
  obtain ⟨low, place_least⟩ := Exact.exists_place hleast
  obtain ⟨high, place_greatest⟩ := Exact.exists_place hgreatest
  have top := Exact.place?_greatest place_least place_greatest
  have bound := Exact.place?_greatest place_greatest place_least
  have ordered : Scalar.le least (Scalar.greatest greatest least) :=
    (Exact.le_iff_le place_least bound).mpr (le_max_right high low)
  unfold estimate?
  dsimp only
  rw [velocity, Exact.ofNat_eq, Exact.le_finite, time, if_pos ordered]
  split
  next still =>
    refine ⟨_, rfl, ordered, (Exact.le_iff_le bound top).mpr (max_comm high low).le, fun positive => ?_⟩
    simp at still
    exact absurd still positive.not_ge
  next moving =>
    have place := Exact.place?_clamp (x := .finite u) rfl place_least bound (le_max_right high low)
    refine ⟨_, rfl, (Exact.le_iff_le place_least place).mpr (le_max_left _ _), ?_, fun _ fits => ?_⟩
    · refine (Exact.le_iff_le place top).mpr ?_
      rw [max_comm low high]
      exact max_le (le_max_right _ _) (min_le_right _ _)
    · have fits := (Exact.le_iff_le rfl place_greatest).mp fits
      rw [min_eq_left (fits.trans (le_max_left _ _))] at place
      exact (Exact.le_iff_le rfl place).mpr (le_max_right _ _)

/-- Whatever was done to a scroller before it was reset, an estimate is within its bounds, and unless the
upper one cuts it, steps that take as long complete the pass, however long each of them is. Only when
they complete a whole round of the count does it tell of none. -/
theorem estimate_covers_pass (settings : ScrollSettings) (calls : List ScrollCall) :
    let s := (after settings calls).reset
    ∃ v b d : Rat, s.velocity = .finite v ∧
      (Scalar.ofFloat s.settings.durationBuffer : Exact) = .finite b ∧ s.clock.maxDelta = .finite d ∧
      0 ≤ v ∧ 0 ≤ b ∧ 0 < d ∧
      (settings.smoothing ≤ 1 → 0 < s.contentWidth → 0 < v →
        ∀ least greatest : Exact, Scalar.le least greatest →
          Scalar.le (.finite (s.passLength / v * (1 + b))) greatest →
          ∃ e, s.estimate? least greatest = some e ∧ ∀ deltas : List Rat, deltas ≠ [] →
            (∀ x ∈ deltas, 0 ≤ x ∧ x ≤ d) → Scalar.le e (.finite deltas.sum) →
            0 < s.passes deltas ∧
              ((s.advanceAll deltas).isCycleComplete ↔ s.passes deltas % 2 ^ 32 ≠ 0) ∧
              (deltas.length < 2 ^ 32 → (s.advanceAll deltas).isCycleComplete)) ∧
      ∀ least greatest : Exact, least ≠ .nan → greatest ≠ .nan →
        ∃ e, s.estimate? least greatest = some e ∧ Scalar.le least e ∧
          Scalar.le e (Scalar.greatest least greatest) := by
  intro s
  obtain ⟨v, d, forwards⟩ := exists_forward settings
  have forward : s.Forward v d := forwards (.reset :: calls)
  obtain ⟨b, nonneg, buffer⟩ := repaired_durationBuffer settings
  have same : s.settings = settings.repaired.value := after_settings settings calls
  rw [← same] at buffer
  have time := unclampedEstimate_eq forward.velocity nonneg buffer
  refine ⟨v, b, d, forward.velocity, buffer, forward.maxDelta, forward.onward, nonneg, forward.positive, ?_,
    fun least greatest hleast hgreatest => ?_⟩
  · rintro unsmoothed wide positive least greatest ordered fits
    have numbers := Exact.ne_nan_of_le ordered
    obtain ⟨e, estimated, -, -, covers⟩ := estimate?_spec forward.velocity time numbers.1 numbers.2
    refine ⟨e, estimated, fun deltas some range enough => ?_⟩
    have single : s.smoother.capacity = 1 := by
      refine (after_capacity settings (.reset :: calls)).trans ?_
      rw [min_eq_left (unsmoothed.trans (by decide)), max_eq_left unsmoothed]
    have start : s.position = .finite (v * 0) := congrArg Exact.finite (mul_zero v).symm
    have longer : s.passLength / v * (1 + b) ≤ deltas.sum :=
      of_decide_eq_true (Exact.le_trans (covers positive fits) enough)
    have distance : s.passLength ≤ v * deltas.sum := by
      rw [← div_le_iff₀' positive]
      exact le_trans (le_mul_of_one_le_right (div_nonneg s.passLength_nonneg positive.le)
        (le_add_of_nonneg_right nonneg)) longer
    have some : 0 < s.passes deltas :=
      Underway.completes ⟨forward, single, wide, rfl, start, le_refl 0⟩ some range distance
    refine ⟨some, isCycleComplete_advanceAll rfl deltas, fun few => ?_⟩
    have less : s.passes deltas < 2 ^ 32 := Nat.lt_of_le_of_lt (passes_le_length s deltas) few
    rw [isCycleComplete_advanceAll rfl, Nat.mod_eq_of_lt less]
    exact some.ne'
  · obtain ⟨e, estimated, low, high, -⟩ := estimate?_spec forward.velocity time hleast hgreatest
    exact ⟨e, estimated, low, high⟩

def shortPass : Scroller Exact :=
  (after { loopMode := .single, smoothing := 1 } [.setWidth 140]).reset

def tenth : Rat :=
  3602879701896397 / 36028797018963968

theorem short_pass_takes_three_steps :
    shortPass.estimate? (.finite 0) (.finite 10) = some (.finite (12 / 50 * (1 + tenth))) ∧
      (shortPass.advanceAll [tenth, tenth, 1 / 15]).isCycleComplete := by
  obtain ⟨v, b, d, velocity, buffer, maxDelta, -, -, -, covers, -⟩ :=
    estimate_covers_pass { loopMode := .single, smoothing := 1 } [.setWidth 140]
  have values : shortPass.velocity = .finite 50 ∧
      (Scalar.ofFloat shortPass.settings.durationBuffer : Exact) = .finite tenth ∧
      shortPass.clock.maxDelta = .finite tenth := by
    decide +kernel
  obtain rfl : v = 50 := Exact.finite.inj (velocity.symm.trans values.1)
  obtain rfl : b = tenth := Exact.finite.inj (buffer.symm.trans values.2.1)
  obtain rfl : d = tenth := Exact.finite.inj (maxDelta.symm.trans values.2.2)
  have estimated : shortPass.estimate? (.finite 0) (.finite 10) = some (.finite (12 / 50 * (1 + tenth))) := by
    decide +kernel
  obtain ⟨e, estimated', complete⟩ := covers (by decide) (by decide) (by norm_num)
    (.finite 0) (.finite 10) (by decide +kernel) (by decide +kernel)
  obtain rfl := Option.some.inj (estimated.symm.trans estimated')
  obtain ⟨-, -, completes⟩ := complete [tenth, tenth, 1 / 15] nofun (by decide +kernel) (by decide +kernel)
  exact ⟨estimated, completes (by decide)⟩

lemma Leaping.passes (h : s.Leaping v d x) (n : Nat) : s.passes (List.replicate n x) = n := by
  induction n generalizing s with
  | zero => rfl
  | succ n ih => rw [List.replicate_succ, Scroller.passes, if_pos h.advance.1, ih h.advance.2]

lemma Leaping.reset (h : s.Leaping v d x) : s.reset.Leaping v d x :=
  ⟨h.forward.restart s.contentWidth s.image, h.unsmoothed, h.wide, rfl, h.mode, rfl, h.low, h.high, h.leap⟩

lemma ribbon_round {n : Nat} (some : n ≠ 0) (round : n % 2 ^ 32 = 0) :
    let s := (after ribbon [.setWidth 1]).reset
    let deltas := List.replicate n (1 : Rat)
    s.estimate? (.finite 0) (.finite 1) = .some (.finite 1) ∧ deltas ≠ [] ∧ (∀ x ∈ deltas, 0 ≤ x ∧ x ≤ 1) ∧
      Scalar.le (.finite 1 : Exact) (.finite deltas.sum) ∧ (s.advanceAll deltas).isCycleComplete = false := by
  have estimated : (after ribbon [.setWidth 1]).reset.estimate? (.finite 0) (.finite 1) =
      Option.some (.finite 1) := by
    decide +kernel
  intro s deltas
  have count : s.passes deltas = n := ribbon_leaping.reset.passes n
  refine ⟨estimated, by simpa [deltas] using some, fun x hx => ?_, ?_, ?_⟩
  · obtain rfl := List.eq_of_mem_replicate hx
    exact ⟨zero_le_one, le_refl 1⟩
  · rw [Exact.le_finite, List.sum_replicate, nsmul_one]
    exact decide_eq_true (Nat.one_le_cast.mpr (Nat.pos_of_ne_zero some))
  · rw [Bool.eq_false_iff, Ne, isCycleComplete_advanceAll rfl, count]
    exact fun h => h round

theorem full_round_of_passes_is_incomplete :
    let s := (after ribbon [.setWidth 1]).reset
    let deltas := List.replicate (2 ^ 32) (1 : Rat)
    s.estimate? (.finite 0) (.finite 1) = some (.finite 1) ∧ deltas ≠ [] ∧ (∀ x ∈ deltas, 0 ≤ x ∧ x ≤ 1) ∧
      Scalar.le (.finite 1 : Exact) (.finite deltas.sum) ∧ (s.advanceAll deltas).isCycleComplete = false :=
  ribbon_round (by decide) (by decide)

end Marquee.Scroller
