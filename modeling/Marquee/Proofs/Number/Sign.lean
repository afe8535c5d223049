import Mathlib
import Marquee.Time

namespace Marquee.Number

open Float.Model (Format UnpackedFloat totalExponent)
open Float.Model.UnpackedFloat

def Unsigned : UnpackedFloat → Prop
  | .infinity s | .finite s _ _ _ => s = .positive
  | .notANumber | .zero _ => True

def Positive : UnpackedFloat → Prop
  | .infinity s => s = .positive
  | .finite s m e _ => s = .positive ∧ m.log2 ≤ 52 ∧ -1074 ≤ e
  | .notANumber => True
  | .zero _ => False

lemma unsigned_unpack {b : BitVec Format.binary64.numBits} (h : unpackSign b = 0#1) :
    Unsigned (unpack .binary64 b) := by
  have sign : Sign.ofBitVec (unpackSign b) = .positive := by
    rw [h]
    rfl
  unfold unpack
  dsimp only
  rw [sign]
  split
  · split <;> trivial
  · split
    · split <;> trivial
    · trivial

lemma unsigned_unpack_pack {x : UnpackedFloat} (h : Unsigned x) :
    Unsigned (unpack .binary64 (pack .binary64 x)) := by
  cases x with
  | infinity s =>
    obtain rfl : s = .positive := h
    exact unsigned_unpack (unpackSign_packComponents _ _ _)
  | notANumber =>
    rw [pack, unpack_packedNaN]
    trivial
  | zero s =>
    rw [pack, unpack_packedZero]
    trivial
  | finite s m e hm =>
    obtain rfl : s = .positive := h
    refine unsigned_unpack ?_
    unfold pack
    dsimp only
    split
    · exact unpackSign_packComponents _ _ _
    · split <;> exact unpackSign_packComponents _ _ _

lemma unpack_finite {b : BitVec Format.binary64.numBits} {s : Sign} {m : Nat} {e : Int} {hm : 0 < m}
    (h : unpack .binary64 b = .finite s m e hm) : m.log2 ≤ 52 ∧ -1074 ≤ e := by
  have bias : Format.binary64.exponentBias = 1023 := rfl
  unfold unpack at h
  dsimp only at h
  split at h
  · split at h <;> cases h
  next finite =>
    split at h
    next subnormal =>
      split at h
      · cases h
      · cases h
        have mantissa : (unpackMantissa b).toNat < 2 ^ 52 := (unpackMantissa b).isLt
        have hlog := (Nat.log2_lt (Nat.ne_of_gt hm)).mpr mantissa
        rw [subnormal, bias]
        exact ⟨Nat.le_of_lt hlog, by decide⟩
    next normal =>
      cases h
      have mantissa : (1#1 ++ unpackMantissa b).toNat < 2 ^ 53 := (1#1 ++ unpackMantissa b).isLt
      have hlog := (Nat.log2_lt (Nat.ne_of_gt hm)).mpr mantissa
      have exponent : (unpackExponent b).toNat ≠ 0 := fun h => normal (BitVec.eq_of_toNat_eq h)
      rw [bias]
      omega

lemma mantissa_shiftRight (x : ExtendedMantissa) (n : Nat) :
    (x >>> n).mantissa = x.mantissa / 2 ^ n := by
  induction n with
  | zero => exact (Nat.div_one _).symm
  | succ n ih =>
    change (x >>> n).mantissa / 2 = _
    rw [ih, Nat.div_div_eq_div_mul, Nat.pow_succ]

lemma le_roundedMantissa (x : ExtendedMantissa) : x.mantissa ≤ x.roundedMantissa := by
  obtain ⟨m, r, s⟩ := x
  cases r <;> cases s <;>
    simp [ExtendedMantissa.roundedMantissa, ExtendedMantissa.accuracy, Accuracy.roundToNearestEven]

lemma targetExponent_eq (m : Nat) (e : Int) :
    Format.binary64.targetExponent (totalExponent m e) = max ((m.log2 : Int) + 1 + e - 53) (-1074) :=
  rfl

lemma shiftToTargetExponent_eq (m : Nat) (e : Int) (accuracy : Accuracy) :
    let n := (Format.binary64.targetExponent (totalExponent m e) - e).toNat
    (shiftToTargetExponent .binary64 m e accuracy).1.mantissa = m / 2 ^ n ∧
      (shiftToTargetExponent .binary64 m e accuracy).2 = e + n := by
  intro n
  refine ⟨(mantissa_shiftRight _ n).trans ?_, rfl⟩
  cases accuracy with
  | exact => rfl
  | inexact half => cases half <;> rfl

lemma log2_shifted (m n : Nat) : (m / 2 ^ n).log2 = m.log2 - n := by
  rw [Nat.log2_eq_log_two, Nat.log2_eq_log_two, Nat.log_div_base_pow]

lemma shiftToTargetExponent_fits {m : Nat} {e : Int} (hm : m ≠ 0) (he : -1074 ≤ e)
    (accuracy : Accuracy) :
    let shifted := shiftToTargetExponent .binary64 m e accuracy
    shifted.1.mantissa ≠ 0 ∧ shifted.1.mantissa.log2 ≤ 52 ∧ -1074 ≤ shifted.2 := by
  let target := Format.binary64.targetExponent (totalExponent m e)
  let n := (target - e).toNat
  have htarget : target = _ := targetExponent_eq m e
  obtain ⟨mantissa, exponent⟩ := shiftToTargetExponent_eq m e accuracy
  have hn : n ≤ m.log2 ∧ m.log2 ≤ 52 + n := by omega
  have hne : m / 2 ^ n ≠ 0 := by
    have hle := (Nat.pow_le_pow_right Nat.two_pos hn.1).trans (Nat.log2_self_le hm)
    exact Nat.ne_of_gt (Nat.div_pos hle (Nat.two_pow_pos n))
  intro shifted
  rw [show shifted.1.mantissa = m / 2 ^ n from mantissa, show shifted.2 = e + n from exponent,
    log2_shifted]
  exact ⟨hne, by omega, by omega⟩

lemma positive_roundWithAccuracy {m : Nat} {e : Int} (hm : m ≠ 0) (he : -1074 ≤ e)
    (accuracy : Accuracy) : Positive (roundWithAccuracy .binary64 .positive m e accuracy) := by
  obtain ⟨first, -, exponent⟩ := shiftToTargetExponent_fits hm he accuracy
  have rounded : (shiftToTargetExponent .binary64 m e accuracy).1.roundedMantissa ≠ 0 := by
    have hle := le_roundedMantissa (shiftToTargetExponent .binary64 m e accuracy).1
    omega
  obtain ⟨hne, hlog, hexp⟩ := shiftToTargetExponent_fits rounded exponent .exact
  unfold roundWithAccuracy
  dsimp only
  rw [dif_neg hne]
  exact ⟨rfl, hlog, hexp⟩

lemma positive_round {m : Nat} {e : Int} (hm : m ≠ 0) (he : -1074 ≤ e) :
    Positive (round .binary64 .positive m e) := by
  refine positive_roundWithAccuracy ?_ ?_ _
  · rw [Nat.shiftLeft_eq]
    exact Nat.mul_ne_zero hm (Nat.ne_of_gt (Nat.two_pow_pos _))
  · rw [targetExponent_eq]
    omega

lemma positive_add {x y : UnpackedFloat} (hx : Positive x) (hy : Unsigned y)
    (range : ∀ s m e hm, y = .finite s m e hm → -1074 ≤ e) : Positive (add .binary64 x y) := by
  cases x with
  | zero => exact hx.elim
  | notANumber => cases y <;> trivial
  | infinity s =>
    obtain rfl : s = .positive := hx
    cases y with
    | infinity s =>
      obtain rfl : s = .positive := hy
      rfl
    | _ => trivial
  | finite s m e hm =>
    cases y with
    | notANumber => trivial
    | infinity s => exact hy
    | zero => exact hx
    | finite s' m' e' hm' =>
      obtain ⟨rfl, -, he⟩ := hx
      obtain rfl : s' = .positive := hy
      have he' := range _ _ _ _ rfl
      let least := min e e'
      let sum : Nat := m <<< (e - least).toNat + m' <<< (e' - least).toNat
      have hsum : 0 < sum := by
        have hpos : 0 < m <<< (e - least).toNat := by
          rw [Nat.shiftLeft_eq]
          exact Nat.mul_pos hm (Nat.two_pow_pos _)
        exact Nat.add_pos_left hpos _
      have hadd : add .binary64 (.finite .positive m e hm) (.finite .positive m' e' hm') =
          UnpackedFloat.normalize .binary64 sum least .positive := rfl
      have hcompare : compare (sum : Int) 0 = .gt := by
        rw [Int.compare_eq_gt]
        omega
      rw [hadd, UnpackedFloat.normalize, hcompare]
      exact positive_round (Nat.ne_of_gt hsum) (by omega)

lemma unpack_eq_zero {b : BitVec Format.binary64.numBits} {s : Sign}
    (h : unpack .binary64 b = .zero s) : unpackExponent b = 0#11 ∧ unpackMantissa b = 0#52 := by
  unfold unpack at h
  dsimp only at h
  split at h
  · split at h <;> cases h
  · split at h
    next exponent =>
      split at h
      next mantissa => exact ⟨exponent, mantissa⟩
      · cases h
    · cases h

lemma unpack_pack_ne_zero {x : UnpackedFloat} (h : Positive x) (s : Sign) :
    unpack .binary64 (pack .binary64 x) ≠ .zero s := by
  intro hz
  obtain ⟨exponent, mantissa⟩ := unpack_eq_zero hz
  cases x with
  | zero => exact h
  | infinity s => simp [pack, packedInfinity] at exponent
  | notANumber => simp [pack, packedNaN] at exponent
  | finite s m e hm =>
    obtain ⟨rfl, hlog, he⟩ := h
    have bias : Format.binary64.exponentBias = 1023 := rfl
    unfold pack at exponent mantissa
    dsimp only at exponent mantissa
    split at exponent
    · simp [packedInfinity] at exponent
    next range =>
      rw [if_neg range] at mantissa
      split at exponent
      next normal =>
        rw [unpackExponent_packComponents, bias] at exponent
        have hzero : (e + (1023 : Nat) + (52 : Nat)).toNat % 2 ^ 11 = 0 :=
          congrArg BitVec.toNat exponent
        rw [bias] at range
        omega
      next subnormal =>
        rw [if_neg subnormal, unpackMantissa_packComponents] at mantissa
        have hzero : m % 2 ^ 52 = 0 := congrArg BitVec.toNat mantissa
        have hbits : m.log2 + 1 ≠ 53 := subnormal
        have small : m < 2 ^ 52 := (Nat.log2_lt (Nat.ne_of_gt hm)).mp (by omega)
        omega

lemma Positive.unsigned {x : UnpackedFloat} (h : Positive x) : Unsigned x := by
  cases x with
  | finite => exact h.1
  | zero => trivial
  | _ => exact h

lemma not_le_zero {x : UnpackedFloat} (h : Positive x) (s : Sign) :
    (unpack .binary64 (pack .binary64 x)).le (.zero s) = false := by
  have unsigned := unsigned_unpack_pack h.unsigned
  have nonzero := unpack_pack_ne_zero h
  generalize unpack .binary64 (pack .binary64 x) = y at unsigned nonzero ⊢
  cases y with
  | zero s => exact absurd rfl (nonzero s)
  | notANumber => rfl
  | infinity s' =>
    obtain rfl : s' = .positive := unsigned
    rfl
  | finite s' m e hm =>
    obtain rfl : s' = .positive := unsigned
    rfl

lemma unsigned_roundWithAccuracy (m : Nat) (e : Int) (accuracy : Accuracy) :
    Unsigned (roundWithAccuracy .binary64 .positive m e accuracy) := by
  unfold roundWithAccuracy
  dsimp only
  split <;> trivial

lemma unsigned_normalize (n : Nat) (e : Int) :
    Unsigned (UnpackedFloat.normalize .binary64 n e .positive) := by
  unfold UnpackedFloat.normalize
  split
  next negative =>
    rw [Int.compare_eq_lt] at negative
    omega
  · trivial
  · exact unsigned_roundWithAccuracy _ _ _

lemma unsigned_mul {x y : UnpackedFloat} (hx : Unsigned x) (hy : Unsigned y) :
    Unsigned (mul .binary64 x y) := by
  cases x with
  | notANumber | zero => cases y <;> trivial
  | infinity s | finite s =>
    obtain rfl : s = .positive := hx
    cases y with
    | notANumber | zero => trivial
    | infinity s' | finite s' =>
      obtain rfl : s' = .positive := hy
      first | rfl | exact unsigned_roundWithAccuracy _ _ _

lemma unsigned_div {x : UnpackedFloat} (hx : Unsigned x) (m : Nat) (e : Int) (hm : 0 < m) :
    Unsigned (div .binary64 x (.finite .positive m e hm)) := by
  cases x with
  | notANumber | zero => trivial
  | infinity s | finite s =>
    obtain rfl : s = .positive := hx
    first | rfl | exact unsigned_roundWithAccuracy _ _ _

lemma unsigned_add {x y : UnpackedFloat} (hx : Unsigned x) (hy : Unsigned y) :
    Unsigned (add .binary64 x y) := by
  cases x with
  | notANumber => cases y <;> trivial
  | zero s =>
    cases y with
    | zero s' => cases s <;> cases s' <;> trivial
    | _ => exact hy
  | infinity s =>
    obtain rfl : s = .positive := hx
    cases y with
    | infinity s' =>
      obtain rfl : s' = .positive := hy
      rfl
    | _ => trivial
  | finite s m e hm =>
    cases y with
    | notANumber => trivial
    | infinity | zero => assumption
    | finite s' m' e' hm' =>
      obtain rfl : s = .positive := hx
      obtain rfl : s' = .positive := hy
      exact unsigned_normalize _ _

lemma unsigned_finite (m : Nat) (e : Int) (hm : 0 < m) : Unsigned (.finite .positive m e hm) :=
  rfl

lemma unsigned_ofScientific (m : Nat) (e : Int) : Unsigned (ofScientific .binary64 m e) := by
  unfold ofScientific
  split
  · trivial
  split
  · trivial
  split
  · trivial
  split
  · exact unsigned_mul (unsigned_finite _ _ _) (unsigned_finite _ _ _)
  · exact unsigned_div (unsigned_finite _ _ _) _ _ _

lemma unsigned_toFloat (n : Nat) : Unsigned n.toFloat.toModel.unpack := by
  have one : Unsigned (Float.exactlyRepresentablePowersOfTen[0]).toModel.unpack :=
    unsigned_unpack_pack (unsigned_unpack rfl)
  change Unsigned (Float.ofScientific n false 0).toModel.unpack
  unfold Float.ofScientific
  split
  · exact unsigned_unpack_pack (unsigned_mul (unsigned_unpack_pack (unsigned_normalize _ 0)) one)
  · exact unsigned_unpack_pack (unsigned_ofScientific _ _)

lemma unsigned_seconds (span : Span) : Unsigned span.seconds.toModel.unpack := by
  have billion : (1000000000 : Float).toModel.unpack =
      .finite .positive 8388608000000000 (-23) (by decide) := by
    rfl
  have part : Unsigned ((span % Span.perSecond).toFloat / 1000000000).toModel.unpack := by
    refine unsigned_unpack_pack ?_
    rw [billion]
    exact unsigned_div (unsigned_toFloat _) _ _ _
  exact unsigned_unpack_pack (unsigned_add (unsigned_toFloat _) part)

lemma nonneg_of_unsigned {x : Float} (h : Unsigned x.toModel.unpack) (real : x ≤ x) : 0 ≤ x := by
  have number : x.toModel.unpack.le x.toModel.unpack = true := of_decide_eq_true real
  have above : (UnpackedFloat.zero .positive).le x.toModel.unpack = true := by
    cases hx : x.toModel.unpack with
    | notANumber =>
      rw [hx] at number
      cases number
    | zero => rfl
    | infinity s | finite s =>
      rw [hx] at h
      obtain rfl : s = .positive := h
      rfl
  exact decide_eq_true above

lemma positive_of_pos {x : Float} (h : 0 < x) : Positive x.toModel.unpack := by
  have above : (UnpackedFloat.zero .positive).lt x.toModel.unpack = true :=
    of_decide_eq_true h
  cases hx : x.toModel.unpack with
  | notANumber => trivial
  | zero s =>
    rw [hx] at above
    cases above
  | infinity s =>
    rw [hx] at above
    cases s with
    | positive => rfl
    | negative => cases above
  | finite s m e hm =>
    rw [hx] at above
    cases s with
    | positive => exact ⟨rfl, unpack_finite hx⟩
    | negative => cases above

lemma not_add_seconds_le_zero {x : Float} (h : 0 < x) (span : Span) : ¬ x + span.seconds ≤ 0 := by
  have sum := positive_add (positive_of_pos h) (unsigned_seconds span)
    fun _ _ _ _ hs => (unpack_finite hs).2
  have above := not_le_zero sum .positive
  intro hle
  have below : (x + span.seconds).toModel.unpack.le (.zero .positive) = true := of_decide_eq_true hle
  exact absurd below (Bool.eq_false_iff.mp above)

end Marquee.Number
