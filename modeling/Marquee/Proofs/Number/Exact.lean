import Marquee.Frame.Clock
import Marquee.Proofs.Number.Decoding

namespace Marquee.Number.Exact

open Float.Model (UnpackedFloat)
open Float.Model.UnpackedFloat

variable {x y z : Rat}

@[simp] theorem ofNat_eq (n : Nat) : (Scalar.ofNat n : Exact) = finite n := rfl

@[simp] theorem add_finite : finite x + finite y = finite (x + y) := rfl

theorem sub_finite : finite x - finite y = finite (x - y) := rfl

@[simp] theorem mul_finite : finite x * finite y = finite (x * y) := rfl

@[simp] theorem div_finite : finite x / finite y = finite (x / y) := rfl

@[simp] theorem lt_finite : Scalar.lt (finite x) (finite y) = decide (x < y) := rfl

@[simp] theorem le_finite : Scalar.le (finite x) (finite y) = decide (x ≤ y) := rfl

lemma rem_finite (h : 0 < y) : Scalar.rem (finite x) (finite y) = finite (x - y * ⌊x / y⌋) :=
  if_neg h.ne'

@[simp] theorem least_finite : Scalar.least (finite x) (finite y) = finite (min x y) := by
  by_cases h : y ≤ x
  · simp [Scalar.least, Scalar.isNumber, h]
  · simp [Scalar.least, Scalar.isNumber, h, le_of_not_ge h]

@[simp] theorem greatest_finite : Scalar.greatest (finite x) (finite y) = finite (max x y) := by
  by_cases h : x ≤ y
  · simp [Scalar.greatest, Scalar.isNumber, h]
  · simp [Scalar.greatest, Scalar.isNumber, h, le_of_not_ge h]

lemma clamp_finite (h : y ≤ z) :
    Scalar.clamp (finite x) (finite y) (finite z) = finite (max y (min x z)) := by
  unfold Scalar.clamp
  simp only [lt_finite, decide_eq_true_eq]
  split_ifs with low high
  · rw [min_eq_left (low.le.trans h), max_eq_left low.le]
  · rw [min_eq_right high.le, max_eq_right h]
  · rw [min_eq_left (not_lt.mp high), max_eq_right (not_lt.mp low)]

lemma seconds_eq (span : Span) : (Scalar.seconds span : Exact) = finite (span / Span.perSecond) := by
  have split := Nat.div_add_mod span Span.perSecond
  have positive : (Span.perSecond : Rat) ≠ 0 := by decide
  have sum : ((span / Span.perSecond : Nat) : Rat) + ((span % Span.perSecond : Nat) : Rat) / Span.perSecond =
      span / Span.perSecond := by
    rw [eq_div_iff positive, add_mul, div_mul_cancel₀ _ positive]
    exact_mod_cast (Nat.mul_comm _ _ ▸ split)
  exact congrArg finite sum

def ofParts (negative : Bool) (mantissa : Nat) (exponent : Int) : Rat :=
  let q := Binary64.quotient mantissa exponent
  if negative then -((q.1 : Rat) / q.2) else q.1 / q.2

lemma ofParts_zero (negative : Bool) (e : Int) : ofParts negative 0 e = 0 := by
  simp [ofParts, Binary64.quotient]

lemma ofFloat_of_finite {s : Sign} {m : Nat} {e : Int} {hm : 0 < m} {x : Float}
    (h : x.toModel.unpack = .finite s m e hm) :
    (Scalar.ofFloat x : Exact) = finite (ofParts (Binary64.hasMinus s) m e) := by
  change ofBinary64 (Binary64.ofFloat x) = _
  rw [Binary64.ofFloat_eq, h]
  rfl

lemma ofFloat_of_zero {s : Sign} {x : Float} (h : x.toModel.unpack = .zero s) :
    (Scalar.ofFloat x : Exact) = finite 0 := by
  change ofBinary64 (Binary64.ofFloat x) = _
  rw [Binary64.ofFloat_eq, h]
  exact congrArg finite (ofParts_zero _ _)

lemma ofParts_pos {m : Nat} (hm : 0 < m) (e : Int) : 0 < ofParts false m e := by
  have num : 0 < (Binary64.quotient m e).1 := Nat.mul_pos hm (Nat.two_pow_pos _)
  have den := Binary64.quotient_den_pos m e
  exact div_pos (Nat.cast_pos.mpr num) (Nat.cast_pos.mpr den)

lemma ofFloat_pos {x : Float} (real : x.isFinite) (h : 0 < x) :
    ∃ q, 0 < q ∧ (Scalar.ofFloat x : Exact) = finite q := by
  have finite : x.toModel.unpack.isFinite = true := real
  have positive := positive_of_pos h
  cases hx : x.toModel.unpack with
  | notANumber | infinity =>
    rw [hx] at finite
    cases finite
  | zero =>
    rw [hx] at positive
    exact positive.elim
  | finite s m e hm =>
    rw [hx] at positive
    obtain rfl : s = .positive := positive.1
    exact ⟨_, ofParts_pos hm e, ofFloat_of_finite hx⟩

lemma ofFloat_nonneg {x : Float} (real : x.isFinite) (h : ¬ x < 0) :
    ∃ q, 0 ≤ q ∧ (Scalar.ofFloat x : Exact) = finite q := by
  have finite : x.toModel.unpack.isFinite = true := real
  cases hx : x.toModel.unpack with
  | notANumber | infinity =>
    rw [hx] at finite
    cases finite
  | zero => exact ⟨0, le_refl 0, ofFloat_of_zero hx⟩
  | finite s m e hm =>
    cases s with
    | positive => exact ⟨_, (ofParts_pos hm e).le, ofFloat_of_finite hx⟩
    | negative =>
      have below : x.toModel.unpack.lt (.zero .positive) = true := by
        rw [hx]
        rfl
      exact absurd (decide_eq_true below) (mt of_decide_eq_true fun h' => h (decide_eq_true h'))

end Marquee.Number.Exact
