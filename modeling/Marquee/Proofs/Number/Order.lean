import Marquee.Proofs.Number.Exact

/-! Doubles compare as the numbers that they stand for. -/

namespace Marquee.Number

open Float.Model (Format UnpackedFloat)
open Float.Model.UnpackedFloat

structure Decoded (m : Nat) (e : Int) : Prop where
  bits : m.log2 ≤ 52
  least : -1074 ≤ e
  full : m.log2 = 52 ∨ e = -1074

variable {m m' : Nat} {e e' : Int}

lemma unpack_decoded {b : BitVec Format.binary64.numBits} {s : Sign} {hm : 0 < m}
    (h : unpack .binary64 b = .finite s m e hm) : Decoded m e := by
  obtain ⟨bits, least⟩ := unpack_finite h
  refine ⟨bits, least, ?_⟩
  have bias : Format.binary64.exponentBias = 1023 := rfl
  unfold unpack at h
  dsimp only at h
  split at h
  · split at h <;> cases h
  -- The lowest field stands for the least exponent, any other for a mantissa with its implicit bit.
  split at h
  next bottom =>
    split at h
    · cases h
    · cases h
      right
      rw [bottom, bias]
      rfl
  · cases h
    left
    have implicit : 2 ^ 52 ≤ (1#1 ++ unpackMantissa b).toNat := by
      rw [BitVec.toNat_append, ← Nat.shiftLeft_add_eq_or_of_lt (unpackMantissa b).isLt]
      exact Nat.le_add_right _ _
    exact Nat.le_antisymm bits ((Nat.le_log2 (Nat.ne_of_gt hm)).mpr implicit)

lemma two_zpow_pos (e : Int) : (0 : ℚ) < 2 ^ e :=
  zpow_pos (by decide) e

lemma Exact.ofParts_eq (negative : Bool) (m : Nat) (e : Int) :
    ofParts negative m e = if negative then -((m : ℚ) * 2 ^ e) else (m : ℚ) * 2 ^ e := by
  have size : ((Binary64.quotient m e).1 : ℚ) / (Binary64.quotient m e).2 = m * 2 ^ e := by
    have powers : (2 : ℚ) ^ e = 2 ^ e.toNat / 2 ^ (-e).toNat := by
      rw [← zpow_natCast, ← zpow_natCast, ← zpow_sub₀ (by decide)]
      congr 1
      omega
    simp only [Binary64.quotient, Nat.pow_eq, Nat.cast_mul, Nat.cast_pow, Nat.cast_ofNat]
    rw [powers, mul_div_assoc]
  rw [← size]
  rfl

lemma Decoded.lt_of_exponent (h : Decoded m e) (h' : Decoded m' e') (lower : e < e') :
    (m : ℚ) * 2 ^ e < m' * 2 ^ e' := by
  have short : m < 2 ^ 53 := by
    rcases Nat.eq_zero_or_pos m with rfl | hm
    · decide
    · exact (Nat.log2_lt (Nat.ne_of_gt hm)).mp (Nat.lt_succ_of_le h.bits)
  have long : 2 ^ 52 ≤ m' := by
    have full : m'.log2 = 52 := h'.full.resolve_right (by have := h.least; omega)
    have hm : m' ≠ 0 := by
      rintro rfl
      cases full
    exact full ▸ Nat.log2_self_le hm
  calc (m : ℚ) * 2 ^ e
    _ < 2 ^ 53 * 2 ^ e := by
      refine mul_lt_mul_of_pos_right ?_ (two_zpow_pos e)
      exact_mod_cast short
    _ = 2 ^ 52 * 2 ^ (e + 1) := by
      rw [zpow_add_one₀ (by decide)]
      ring
    _ ≤ m' * 2 ^ e' := by
      refine mul_le_mul ?_ (zpow_le_zpow_right₀ (by decide) lower) (two_zpow_pos _).le (Nat.cast_nonneg m')
      exact_mod_cast long

lemma Decoded.compare_eq (h : Decoded m e) (h' : Decoded m' e') :
    (compare e e').then (compare m m') = compare ((m : ℚ) * 2 ^ e) (m' * 2 ^ e') := by
  rcases lt_trichotomy e e' with lower | rfl | higher
  · rw [compare_lt_iff_lt.mpr lower, compare_lt_iff_lt.mpr (h.lt_of_exponent h' lower)]
    rfl
  · have positive := two_zpow_pos e
    rw [compare_eq_iff_eq.mpr rfl, Ordering.then]
    rcases lt_trichotomy m m' with less | rfl | more
    · rw [compare_lt_iff_lt.mpr less, compare_lt_iff_lt.mpr]
      exact mul_lt_mul_of_pos_right (Nat.cast_lt.mpr less) positive
    · rw [compare_eq_iff_eq.mpr rfl, compare_eq_iff_eq.mpr rfl]
    · rw [compare_gt_iff_gt.mpr more, compare_gt_iff_gt.mpr]
      exact mul_lt_mul_of_pos_right (Nat.cast_lt.mpr more) positive
  · rw [compare_gt_iff_gt.mpr higher, compare_gt_iff_gt.mpr (h'.lt_of_exponent h higher)]
    rfl

namespace Exact

variable {x y z : Exact}

def place? : Exact → Option (WithBot (WithTop ℚ))
  | nan => none
  | infinite true => some ⊥
  | infinite false => some ⊤
  | finite q => some (q : WithTop ℚ)

lemma exists_place (h : x ≠ nan) : ∃ a, x.place? = some a := by
  rcases x with _ | (_ | _) | x
  · exact absurd rfl h
  all_goals exact ⟨_, rfl⟩

def order (x y : Exact) : Option Ordering :=
  x.place?.bind fun a => y.place?.map (compare a)

lemma order_finite (p q : ℚ) : order (finite p) (finite q) = some (compare p q) := by
  refine congrArg some ?_
  rw [LinearOrder.compare_eq_compareOfLessAndEq, LinearOrder.compare_eq_compareOfLessAndEq]
  simp [compareOfLessAndEq]

-- Only fractions are left to compare once both are seen to be numbers and neither to be infinite.
lemma lt_eq (x y : Exact) : lt x y = (order x y == some .lt) := by
  rcases x with _ | (_ | _) | x <;> rcases y with _ | (_ | _) | y <;> try rfl
  rw [Bool.eq_iff_iff, order_finite]
  change decide (x < y) = true ↔ _
  simp [compare_lt_iff_lt]

lemma le_eq (x y : Exact) : le x y = (order x y).any Ordering.isLE := by
  rcases x with _ | (_ | _) | x <;> rcases y with _ | (_ | _) | y <;> try rfl
  rw [Bool.eq_iff_iff, order_finite]
  change decide (x ≤ y) = true ↔ _
  simp [Ordering.isLE_iff_ne_gt, compare_le_iff_le]

lemma le_and_le_eq (x y : Exact) : (le x y && le y x) = (order x y == some .eq) := by
  rcases x with _ | (_ | _) | x <;> rcases y with _ | (_ | _) | y <;> try rfl
  rw [Bool.eq_iff_iff, order_finite]
  change (decide (x ≤ y) && decide (y ≤ x)) = true ↔ _
  simpa [compare_eq_iff_eq] using le_antisymm_iff.symm

lemma lt_iff_place : lt x y ↔ ∃ a b, x.place? = some a ∧ y.place? = some b ∧ a < b := by
  simp [lt_eq, order, Option.bind_eq_some_iff, compare_lt_iff_lt]

lemma le_iff_place : le x y ↔ ∃ a b, x.place? = some a ∧ y.place? = some b ∧ a ≤ b := by
  simp [le_eq, order, Option.any_eq_true, Option.bind_eq_some_iff, Ordering.isLE_iff_ne_gt,
    compare_le_iff_le]

section Places

variable {a b c : WithBot (WithTop ℚ)}

lemma lt_iff_lt (hx : x.place? = some a) (hy : y.place? = some b) : lt x y ↔ a < b := by
  simp [lt_iff_place, hx, hy]

lemma le_iff_le (hx : x.place? = some a) (hy : y.place? = some b) : le x y ↔ a ≤ b := by
  simp [le_iff_place, hx, hy]

lemma place?_greatest (hx : x.place? = some a) (hy : y.place? = some b) :
    (Scalar.greatest x y).place? = some (max a b) := by
  have number : (le x x) = true := (le_iff_le hx hx).mpr le_rfl
  change (if le x x then if le x y then y else x else y).place? = _
  rw [if_pos number]
  split_ifs with h
  · rw [hy, max_eq_right ((le_iff_le hx hy).mp h)]
  · rw [le_iff_le hx hy, not_le] at h
    rw [hx, max_eq_left h.le]

lemma place?_clamp (hx : x.place? = some a) (hy : y.place? = some b) (hz : z.place? = some c) (h : b ≤ c) :
    (Scalar.clamp x y z).place? = some (max b (min a c)) := by
  change (if lt x y then y else if lt z x then z else x).place? = _
  simp only [lt_iff_lt hx hy, lt_iff_lt hz hx]
  split_ifs with below above
  · rw [hy, min_eq_left (below.le.trans h), max_eq_left below.le]
  · rw [hz, min_eq_right above.le, max_eq_right h]
  · rw [hx, min_eq_left (not_lt.mp above), max_eq_right (not_lt.mp below)]

end Places

lemma le_trans (h : le x y) (h' : le y z) : le x z := by
  obtain ⟨a, b, hx, hy, hab⟩ := le_iff_place.mp h
  obtain ⟨_, c, _, hz, _⟩ := le_iff_place.mp h'
  exact (le_iff_le hx hz).mpr (hab.trans ((le_iff_le hy hz).mp h'))

lemma lt_of_lt_of_le (h : lt x y) (h' : le y z) : lt x z := by
  obtain ⟨a, b, hx, hy, hab⟩ := lt_iff_place.mp h
  obtain ⟨_, c, _, hz, _⟩ := le_iff_place.mp h'
  exact (lt_iff_lt hx hz).mpr (hab.trans_le ((le_iff_le hy hz).mp h'))

lemma le_of_lt (h : lt x y) : le x y := by
  obtain ⟨a, b, hx, hy, hab⟩ := lt_iff_place.mp h
  exact (le_iff_le hx hy).mpr hab.le

lemma lt_of_le_of_lt (h : le x y) (h' : lt y z) : lt x z := by
  obtain ⟨a, b, hx, hy, hab⟩ := le_iff_place.mp h
  obtain ⟨_, c, _, hz, _⟩ := lt_iff_place.mp h'
  exact (lt_iff_lt hx hz).mpr (hab.trans_lt ((lt_iff_lt hy hz).mp h'))

lemma not_le_of_lt (h : lt x y) : ¬ le y x := by
  obtain ⟨a, b, hx, hy, hab⟩ := lt_iff_place.mp h
  rw [le_iff_le hy hx]
  exact hab.not_ge

lemma not_lt_nan : ¬ lt x nan := by
  simp [lt_iff_place, place?]

lemma not_le_nan : ¬ le x nan := by
  simp [le_iff_place, place?]

lemma ne_nan_of_le (h : le x y) : x ≠ nan ∧ y ≠ nan := by
  obtain ⟨a, b, hx, hy, -⟩ := le_iff_place.mp h
  constructor
  · rintro rfl
    cases hx
  · rintro rfl
    cases hy

lemma lt_of_not_le (hx : x ≠ nan) (hy : y ≠ nan) (h : ¬ le y x) : lt x y := by
  obtain ⟨a, ha⟩ := exists_place hx
  obtain ⟨b, hb⟩ := exists_place hy
  rw [le_iff_le hb ha, not_le] at h
  exact (lt_iff_lt ha hb).mpr h

lemma le_of_not_lt (hx : x ≠ nan) (hy : y ≠ nan) (h : ¬ lt y x) : le x y := by
  obtain ⟨a, ha⟩ := exists_place hx
  obtain ⟨b, hb⟩ := exists_place hy
  rw [lt_iff_lt hb ha, not_lt] at h
  exact (le_iff_le ha hb).mpr h

lemma finite_of_between {a b : Rat} (low : le (finite a) x) (high : le x (finite b)) :
    ∃ q, x = finite q ∧ a ≤ q ∧ q ≤ b := by
  cases x with
  | nan => cases low
  | infinite negative =>
    cases negative with
    | false => cases high
    | true => cases low
  | finite q => exact ⟨q, rfl, of_decide_eq_true low, of_decide_eq_true high⟩

end Exact

def exact (x : UnpackedFloat) : Exact :=
  .ofBinary64 (.ofUnpacked x)

lemma exact_zero (s : Sign) : exact (.zero s) = .finite 0 :=
  congrArg Exact.finite (Exact.ofParts_zero _ _)

lemma exact_finite {hm : 0 < m} (s : Sign) :
    exact (.finite s m e hm) = .finite (Exact.ofParts (Binary64.hasMinus s) m e) :=
  rfl

lemma ofFloat_exact (x : Float) : (Scalar.ofFloat x : Exact) = exact x.toModel.unpack :=
  congrArg Exact.ofBinary64 (Binary64.ofFloat_eq x)

lemma compare_zero_size {s : Sign} (hm : 0 < m) (e : Int) :
    compare (0 : ℚ) (Exact.ofParts (Binary64.hasMinus s) m e) =
      (match s with | .positive => .lt | .negative => .gt) := by
  have size : 0 < (m : ℚ) * 2 ^ e := mul_pos (Nat.cast_pos.mpr hm) (two_zpow_pos e)
  rw [Exact.ofParts_eq]
  cases s with
  | positive => exact compare_lt_iff_lt.mpr size
  | negative => exact compare_gt_iff_gt.mpr (neg_neg_of_pos size)

lemma compare_neg_neg (x y : ℚ) : compare (-x) (-y) = (compare x y).swap := by
  rcases lt_trichotomy x y with less | rfl | more
  · rw [compare_lt_iff_lt.mpr less]
    exact compare_gt_iff_gt.mpr (neg_lt_neg less)
  · rw [compare_eq_iff_eq.mpr rfl, compare_eq_iff_eq.mpr rfl]
    rfl
  · rw [compare_gt_iff_gt.mpr more]
    exact compare_lt_iff_lt.mpr (neg_lt_neg more)

lemma compare_exact {x y : UnpackedFloat} (hx : ∀ s m e hm, x = .finite s m e hm → Decoded m e)
    (hy : ∀ s m e hm, y = .finite s m e hm → Decoded m e) :
    x.compare y = (exact x).order (exact y) := by
  cases x with
  | notANumber => rfl
  | infinity s =>
    cases y with
    | notANumber => cases s <;> rfl
    | infinity s' => cases s <;> cases s' <;> rfl
    | zero | finite => cases s <;> rfl
  | zero s =>
    cases y with
    | notANumber => rfl
    | infinity s' => cases s' <;> rfl
    | zero s' =>
      rw [exact_zero, exact_zero]
      rfl
    | finite s' m' e' hm' =>
      rw [exact_zero, exact_finite, Exact.order_finite, compare_zero_size hm']
      cases s' <;> rfl
  | finite s m e hm =>
    cases y with
    | notANumber => rfl
    | infinity s' => cases s' <;> rfl
    | zero s' =>
      rw [exact_zero, exact_finite, Exact.order_finite, Std.OrientedOrd.eq_swap, compare_zero_size hm]
      cases s <;> rfl
    | finite s' m' e' hm' =>
      have parts := (hx s m e hm rfl).compare_eq (hy s' m' e' hm' rfl)
      have size : 0 < (m : ℚ) * 2 ^ e := mul_pos (Nat.cast_pos.mpr hm) (two_zpow_pos e)
      have size' : 0 < (m' : ℚ) * 2 ^ e' := mul_pos (Nat.cast_pos.mpr hm') (two_zpow_pos e')
      rw [exact_finite, exact_finite, Exact.order_finite, Exact.ofParts_eq, Exact.ofParts_eq]
      cases s with
      | positive =>
        cases s' with
        | positive => exact congrArg some parts
        | negative => exact congrArg some (compare_gt_iff_gt.mpr ((neg_neg_of_pos size').trans size)).symm
      | negative =>
        cases s' with
        | positive => exact congrArg some (compare_lt_iff_lt.mpr ((neg_neg_of_pos size).trans size')).symm
        | negative =>
          refine congrArg some (Eq.trans ?_ (compare_neg_neg _ _).symm)
          exact congrArg Ordering.swap parts

variable {x y z : Float}

lemma compare_unpack (x y : Float) :
    x.toModel.unpack.compare y.toModel.unpack = (exact x.toModel.unpack).order (exact y.toModel.unpack) :=
  compare_exact (fun _ _ _ _ => unpack_decoded) (fun _ _ _ _ => unpack_decoded)

theorem lt_iff_exact : x < y ↔ Scalar.lt (Scalar.ofFloat x : Exact) (Scalar.ofFloat y) := by
  have less : x < y ↔ x.toModel.unpack.lt y.toModel.unpack = true := decide_eq_true_iff
  rw [less, ofFloat_exact, ofFloat_exact, UnpackedFloat.lt, compare_unpack, ← Exact.lt_eq]
  rfl

theorem le_iff_exact : x ≤ y ↔ Scalar.le (Scalar.ofFloat x : Exact) (Scalar.ofFloat y) := by
  have less : x ≤ y ↔ x.toModel.unpack.le y.toModel.unpack = true := decide_eq_true_iff
  rw [less, ofFloat_exact, ofFloat_exact, UnpackedFloat.le, compare_unpack, ← Exact.le_eq]
  rfl

theorem beq_iff_exact : x == y ↔ Scalar.le (Scalar.ofFloat x : Exact) (Scalar.ofFloat y) ∧
    Scalar.le (Scalar.ofFloat y : Exact) (Scalar.ofFloat x) := by
  have same : (x == y) = x.toModel.unpack.beq y.toModel.unpack := rfl
  rw [same, ofFloat_exact, ofFloat_exact, UnpackedFloat.beq, compare_unpack, ← Exact.le_and_le_eq,
    Bool.and_eq_true]
  rfl

theorem isFinite_iff_exact : x.isFinite ↔ ∃ q, (Scalar.ofFloat x : Exact) = .finite q := by
  have real : x.isFinite = x.toModel.unpack.isFinite := rfl
  rw [real, ofFloat_exact]
  cases x.toModel.unpack with
  | notANumber | infinity => exact iff_of_false nofun nofun
  | zero s => exact iff_of_true rfl ⟨_, exact_zero s⟩
  | finite s m e hm => exact iff_of_true rfl ⟨_, exact_finite s⟩

theorem isNaN_iff_exact : x.isNaN ↔ (Scalar.ofFloat x : Exact) = .nan := by
  have real : x.isNaN = x.toModel.unpack.isNaN := rfl
  rw [real, ofFloat_exact]
  cases x.toModel.unpack with
  | notANumber => exact iff_of_true rfl rfl
  | _ => exact iff_of_false nofun nofun

lemma ofFloat_zero : (Scalar.ofFloat 0 : Exact) = .finite 0 := by
  decide +kernel

lemma isFinite_zero : (0 : Float).isFinite :=
  isFinite_iff_exact.mpr ⟨0, ofFloat_zero⟩

lemma not_lt_iff_le (hx : x.isFinite) (hy : y.isFinite) : ¬ y < x ↔ x ≤ y := by
  obtain ⟨p, hp⟩ := isFinite_iff_exact.mp hx
  obtain ⟨q, hq⟩ := isFinite_iff_exact.mp hy
  simp [lt_iff_exact, le_iff_exact, hp, hq]

lemma pos_iff_not_le_zero (hx : x.isFinite) : 0 < x ↔ ¬ x ≤ 0 := by
  rw [← not_lt_iff_le hx isFinite_zero, not_not]

/-! The order of doubles, where what is not a number stands in no relation to anything. -/

namespace Double

lemma le_trans (h : x ≤ y) (h' : y ≤ z) : x ≤ z :=
  le_iff_exact.mpr (Exact.le_trans (le_iff_exact.mp h) (le_iff_exact.mp h'))

lemma lt_of_lt_of_le (h : x < y) (h' : y ≤ z) : x < z :=
  lt_iff_exact.mpr (Exact.lt_of_lt_of_le (lt_iff_exact.mp h) (le_iff_exact.mp h'))

lemma le_of_lt (h : x < y) : x ≤ y :=
  le_iff_exact.mpr (Exact.le_of_lt (lt_iff_exact.mp h))

lemma not_le_of_lt (h : x < y) : ¬ y ≤ x :=
  fun h' => Exact.not_le_of_lt (lt_iff_exact.mp h) (le_iff_exact.mp h')

lemma not_lt_of_le (h : x ≤ y) : ¬ y < x :=
  fun h' => not_le_of_lt h' h

lemma isNaN_of_lt (h : x < y) : y.isNaN = false := by
  refine Bool.eq_false_iff.mpr fun nan => ?_
  rw [lt_iff_exact, isNaN_iff_exact.mp nan] at h
  exact Exact.not_lt_nan h

lemma isNaN_of_le (h : x ≤ y) : y.isNaN = false := by
  refine Bool.eq_false_iff.mpr fun nan => ?_
  rw [le_iff_exact, isNaN_iff_exact.mp nan] at h
  exact Exact.not_le_nan h

lemma lt_of_not_le (hx : x.isNaN = false) (hy : y.isNaN = false) (h : ¬ y ≤ x) : x < y := by
  refine lt_iff_exact.mpr (Exact.lt_of_not_le ?_ ?_ (mt le_iff_exact.mpr h))
  · exact mt isNaN_iff_exact.mpr (Bool.eq_false_iff.mp hx)
  · exact mt isNaN_iff_exact.mpr (Bool.eq_false_iff.mp hy)

lemma le_of_not_lt (hx : x.isNaN = false) (hy : y.isNaN = false) (h : ¬ y < x) : x ≤ y := by
  refine le_iff_exact.mpr (Exact.le_of_not_lt ?_ ?_ (mt lt_iff_exact.mpr h))
  · exact mt isNaN_iff_exact.mpr (Bool.eq_false_iff.mp hx)
  · exact mt isNaN_iff_exact.mpr (Bool.eq_false_iff.mp hy)

lemma beq_iff_le : x == y ↔ x ≤ y ∧ y ≤ x := by
  rw [beq_iff_exact, le_iff_exact, le_iff_exact]

lemma le_refl (hx : x.isFinite) : x ≤ x :=
  (not_lt_iff_le hx hx).mp fun less => not_le_of_lt less (le_of_lt less)

lemma isNaN_of_isFinite (hx : x.isFinite) : x.isNaN = false :=
  isNaN_of_le (le_refl hx)

lemma isFinite_of_between (hx : x.isFinite) (hz : z.isFinite) (low : x ≤ y) (high : y ≤ z) :
    y.isFinite := by
  obtain ⟨a, ha⟩ := isFinite_iff_exact.mp hx
  obtain ⟨b, hb⟩ := isFinite_iff_exact.mp hz
  rw [le_iff_exact, ha] at low
  rw [le_iff_exact, hb] at high
  obtain ⟨q, hq, -⟩ := Exact.finite_of_between low high
  exact isFinite_iff_exact.mpr ⟨q, hq⟩

end Double

end Marquee.Number
