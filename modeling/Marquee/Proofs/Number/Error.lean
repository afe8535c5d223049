import Marquee.Proofs.Number.Finite
import Marquee.Proofs.Number.Order
import Marquee.Proofs.Time

namespace Marquee.Number

open Float.Model (Format UnpackedFloat totalExponent)
open Float.Model.UnpackedFloat

inductive AtMost (q : ℚ) : UnpackedFloat → Prop
  | zero (s : Sign) (h : 0 ≤ q) : AtMost q (.zero s)
  | finite {m : Nat} {e : Int} {hm : 0 < m} (low : -1074 ≤ e) (h : (m : ℚ) * 2 ^ e ≤ q) :
    AtMost q (.finite .positive m e hm)

variable {p q : ℚ} {x y : UnpackedFloat} {m n : Nat} {e k : Int}

lemma AtMost.nonneg (h : AtMost q x) : 0 ≤ q := by
  cases h with
  | zero _ h => exact h
  | finite _ h => exact le_trans (mul_nonneg (Nat.cast_nonneg _) (two_zpow_pos _).le) h

lemma AtMost.exact (h : AtMost q x) : ∃ v, exact x = .finite v ∧ v ≤ q := by
  cases h with
  | zero s h => exact ⟨0, exact_zero s, h⟩
  | @finite m e hm low h =>
    refine ⟨_, exact_finite .positive, ?_⟩
    rw [Exact.ofParts_eq]
    exact h

lemma exponent_lt (hm : m ≠ 0) (value : (m : ℚ) * 2 ^ e ≤ q) (size : q < 2 ^ k) : m.log2 + e < k := by
  have front : (2 : ℚ) ^ m.log2 ≤ m := by exact_mod_cast Nat.log2_self_le hm
  have whole : (2 : ℚ) ^ ((m.log2 : Int) + e) ≤ m * 2 ^ e := by
    rw [zpow_add₀ (by decide), zpow_natCast]
    exact mul_le_mul_of_nonneg_right front (two_zpow_pos e).le
  exact (zpow_lt_zpow_iff_right₀ (by decide)).mp ((whole.trans value).trans_lt size)

lemma totalExponent_le (he : e ≤ k) (value : (m : ℚ) * 2 ^ e ≤ q) (size : q < 2 ^ (k + 53)) :
    (m.log2 : Int) + 1 + e ≤ k + 53 := by
  by_cases zero : m = 0
  · rw [zero, Nat.log2_zero]
    omega
  · have := exponent_lt zero value size
    omega

lemma shifted_value_le (m n : Nat) (e : Int) : ((m / 2 ^ n : Nat) : ℚ) * 2 ^ (e + n) ≤ m * 2 ^ e := by
  have whole : ((m / 2 ^ n : Nat) : ℚ) * 2 ^ n ≤ m := by exact_mod_cast Nat.div_mul_le_self m (2 ^ n)
  calc ((m / 2 ^ n : Nat) : ℚ) * 2 ^ (e + n)
    _ = ((m / 2 ^ n : Nat) : ℚ) * 2 ^ n * 2 ^ e := by
      rw [zpow_add₀ (by decide), zpow_natCast]
      ring
    _ ≤ m * 2 ^ e := mul_le_mul_of_nonneg_right whole (two_zpow_pos e).le

lemma shiftLeft_value (m n : Nat) (e : Int) : ((m <<< n : Nat) : ℚ) * 2 ^ (e - n) = m * 2 ^ e := by
  have positive : (2 : ℚ) ^ n ≠ 0 := by positivity
  rw [Nat.shiftLeft_eq, zpow_sub₀ (by decide), zpow_natCast]
  push_cast
  field_simp

lemma atMost_roundWithAccuracy (low : -1074 ≤ k) (he : e ≤ k) (value : (m : ℚ) * 2 ^ e ≤ q)
    (size : q < 2 ^ (k + 53)) (accuracy : Accuracy) :
    AtMost (q + 2 ^ k) (roundWithAccuracy .binary64 .positive m e accuracy) := by
  have top := totalExponent_le he value size
  have shifts := shiftToTargetExponent_eq m e accuracy
  have rounded := roundedMantissa_le (shiftToTargetExponent .binary64 m e accuracy).1
  unfold roundWithAccuracy
  dsimp only
  generalize shiftToTargetExponent .binary64 m e accuracy = first at *
  -- The first shift leaves off less than a unit, by which rounding goes up at most.
  obtain ⟨mantissa, exponent⟩ := shifts
  rw [targetExponent_eq] at mantissa exponent
  have unit : first.2 ≤ k := by omega
  have bottom : -1074 ≤ first.2 := by omega
  have once : (first.1.roundedMantissa : ℚ) * 2 ^ first.2 ≤ q + 2 ^ k := by
    have cut : (first.1.mantissa : ℚ) * 2 ^ first.2 ≤ m * 2 ^ e := by
      rw [mantissa, exponent]
      exact shifted_value_le m _ e
    calc (first.1.roundedMantissa : ℚ) * 2 ^ first.2
      _ ≤ (first.1.mantissa + 1) * 2 ^ first.2 := by
        refine mul_le_mul_of_nonneg_right ?_ (two_zpow_pos _).le
        exact_mod_cast rounded
      _ = first.1.mantissa * 2 ^ first.2 + 2 ^ first.2 := by ring
      _ ≤ q + 2 ^ k := add_le_add (cut.trans value) (zpow_le_zpow_right₀ (by decide) unit)
  have again := shiftToTargetExponent_eq first.1.roundedMantissa first.2 .exact
  obtain ⟨shorter, higher⟩ := again
  split
  · refine .zero _ (le_trans ?_ once)
    exact mul_nonneg (Nat.cast_nonneg _) (two_zpow_pos _).le
  · refine .finite (by omega) (le_trans ?_ once)
    rw [shorter, higher]
    exact shifted_value_le _ _ _

lemma atMost_round (hm : m ≠ 0) (low : -1074 ≤ k) (value : (m : ℚ) * 2 ^ e ≤ q)
    (size : q < 2 ^ (k + 53)) : AtMost (q + 2 ^ k) (round .binary64 .positive m e) := by
  have top := exponent_lt hm value size
  let shift := (e - Format.binary64.targetExponent (totalExponent m e)).toNat
  have hshift : shift = (e - max ((m.log2 : Int) + 1 + e - 53) (-1074)).toNat := rfl
  refine atMost_roundWithAccuracy (e := e - shift) low (by omega) ?_ size .exact
  exact (shiftLeft_value m shift e).trans_le value

lemma atMost_normalize (low : -1074 ≤ k) (value : (n : ℚ) * 2 ^ e ≤ q) (size : q < 2 ^ (k + 53)) :
    AtMost (q + 2 ^ k) (UnpackedFloat.normalize .binary64 n e .positive) := by
  have nonneg : 0 ≤ q := le_trans (mul_nonneg (Nat.cast_nonneg _) (two_zpow_pos _).le) value
  unfold UnpackedFloat.normalize
  split
  next negative =>
    rw [Int.compare_eq_lt] at negative
    omega
  · exact .zero _ (add_nonneg nonneg (two_zpow_pos k).le)
  next positive =>
    rw [Int.compare_eq_gt] at positive
    exact atMost_round (by omega) low value size

lemma atMost_unpack_pack (h : AtMost q x) (size : q < 2 ^ (64 : Int)) :
    AtMost q (unpack .binary64 (pack .binary64 x)) := by
  cases h with
  | zero s h =>
    rw [pack, unpack_packedZero]
    exact .zero s h
  | @finite m e hm low value =>
    have small := exponent_lt (Nat.ne_of_gt hm) value size
    by_cases full : m.log2 = 52
    · rw [unpack_pack_normal hm .positive full low (by omega)]
      exact .finite low value
    · -- What is not of full length is packed with the least exponent.
      rw [pack_finite hm (by omega), if_neg full]
      have least : ((m % 2 ^ 52 : Nat) : ℚ) * 2 ^ (-1074 : Int) ≤ m * 2 ^ e := by
        refine mul_le_mul ?_ (zpow_le_zpow_right₀ (by decide) low) (two_zpow_pos _).le (Nat.cast_nonneg m)
        exact_mod_cast Nat.mod_le m _
      unfold unpack
      simp only [unpackExponent_packComponents, unpackMantissa_packComponents, unpackSign_packComponents,
        Sign.ofBitVec_toBitVec]
      rw [if_neg (by decide), if_pos trivial]
      split
      · exact .zero _ (le_trans (mul_nonneg (Nat.cast_nonneg _) (two_zpow_pos _).le) value)
      · exact .finite (le_refl _) (least.trans value)

lemma atMost_add (hx : AtMost p x) (hy : AtMost q y) (low : -1074 ≤ k) (size : p + q < 2 ^ (k + 53)) :
    AtMost (p + q + 2 ^ k) (add .binary64 x y) := by
  have unit := (two_zpow_pos k).le
  have nonneg := hx.nonneg
  have nonneg' := hy.nonneg
  cases hx with
  | zero s =>
    cases hy with
    | zero s' =>
      cases s <;> cases s' <;> exact .zero _ (by linarith)
    | finite low' value' => exact .finite low' (by linarith)
  | @finite m e hm low value =>
    cases hy with
    | zero s' => exact .finite low (by linarith)
    | @finite m' e' hm' low' value' =>
      let least := min e e'
      let a := m <<< (e - least).toNat
      let b := m' <<< (e' - least).toNat
      have first : (a : ℚ) * 2 ^ least = m * 2 ^ e := by
        rw [← shiftLeft_value m (e - least).toNat e]
        congr 2
        omega
      have second : (b : ℚ) * 2 ^ least = m' * 2 ^ e' := by
        rw [← shiftLeft_value m' (e' - least).toNat e']
        congr 2
        omega
      have sum : ((a + b : Nat) : ℚ) * 2 ^ least ≤ p + q := by
        push_cast
        rw [add_mul, first, second]
        exact add_le_add value value'
      exact atMost_normalize ‹_› sum size

lemma atMost_mul_one (h : AtMost q x) (low : -1074 ≤ k) (size : q < 2 ^ (k + 53)) :
    AtMost (q + 2 ^ k) (mul .binary64 x (.finite .positive (2 ^ 52) (-52) (by decide))) := by
  cases h with
  | zero s h => exact .zero _ (add_nonneg h (two_zpow_pos k).le)
  | @finite m e hm least value =>
    have top := exponent_lt (Nat.ne_of_gt hm) value size
    refine atMost_roundWithAccuracy (m := m * 2 ^ 52) (e := e + -52) low (by omega) ?_ size .exact
    refine le_trans (le_of_eq ?_) value
    exact (Nat.shiftLeft_eq m 52 ▸ shiftLeft_value m 52 e)

lemma atMost_div {m' : Nat} {e' : Int} {hm' : 0 < m'} (h : AtMost q x) (low : -1074 ≤ k)
    (size : q / (m' * 2 ^ e') < 2 ^ (k + 52)) :
    AtMost (q / (m' * 2 ^ e') + 2 ^ k) (div .binary64 x (.finite .positive m' e' hm')) := by
  have divisor : (0 : ℚ) < m' * 2 ^ e' := mul_pos (Nat.cast_pos.mpr hm') (two_zpow_pos e')
  cases h with
  | zero s h => exact .zero _ (add_nonneg (div_nonneg h divisor.le) (two_zpow_pos k).le)
  | @finite m e hm least value =>
    let target := min (e - e') (Format.binary64.targetExponent (totalExponent m e - totalExponent m' e'))
    let shift := (e - e' - target).toNat
    have top : (m.log2 : Int) + e < k + 52 + (m'.log2 + 1 + e') := by
      refine exponent_lt (Nat.ne_of_gt hm) value (((div_lt_iff₀ divisor).mp size).trans_le ?_)
      have front : (m' : ℚ) ≤ 2 ^ (m'.log2 + 1) := by exact_mod_cast (Nat.lt_log2_self (n := m')).le
      rw [zpow_add₀ (by decide) (k + 52), zpow_add₀ (by decide) _ e']
      refine mul_le_mul_of_nonneg_left ?_ (two_zpow_pos _).le
      exact mul_le_mul_of_nonneg_right (by exact_mod_cast front) (two_zpow_pos e').le
    have htarget : target = min (e - e')
        (max ((m.log2 : Int) + 1 + e - (m'.log2 + 1 + e') - 53) (-1074)) := rfl
    have quotient : (((m <<< shift) / m' : Nat) : ℚ) * 2 ^ target ≤ q / (m' * 2 ^ e') := by
      have exponent : target = e - e' - shift := by omega
      calc (((m <<< shift) / m' : Nat) : ℚ) * 2 ^ target
        _ ≤ ((m <<< shift : Nat) : ℚ) / m' * 2 ^ target :=
          mul_le_mul_of_nonneg_right Nat.cast_div_le (two_zpow_pos target).le
        _ = (m * 2 ^ (e - e')) / m' := by rw [div_mul_eq_mul_div, exponent, shiftLeft_value]
        _ = m * 2 ^ e / (m' * 2 ^ e') := by
          rw [zpow_sub₀ (by decide), mul_div_assoc', div_div, mul_comm (2 ^ e') (m' : ℚ)]
        _ ≤ q / (m' * 2 ^ e') := div_le_div_of_nonneg_right value divisor.le
    have room : (2 : ℚ) ^ (k + 52) ≤ 2 ^ (k + 53) := zpow_le_zpow_right₀ (by decide) (by omega)
    exact atMost_roundWithAccuracy low (by omega) quotient (size.trans_le room) _

lemma atMost_toFloat {n : Nat} (h : n < 2 ^ 53) (low : -1074 ≤ k) (high : k ≤ 10)
    (size : (n : ℚ) + 2 ^ k < 2 ^ (k + 53)) : AtMost (n + 2 ^ k + 2 ^ k) n.toFloat.toModel.unpack := by
  have unit := two_zpow_pos k
  have top : (2 : ℚ) ^ (k + 53) ≤ 2 ^ (63 : Int) := zpow_le_zpow_right₀ (by decide) (by omega)
  have small : (2 : ℚ) ^ k ≤ 2 ^ (63 : Int) := zpow_le_zpow_right₀ (by decide) (by omega)
  have double : (2 : ℚ) ^ (64 : Int) = 2 ^ (63 : Int) + 2 ^ (63 : Int) := by norm_num
  let whole := unpack .binary64 (pack .binary64 (UnpackedFloat.normalize .binary64 n.toUInt64.toNat 0 .positive))
  have same : n.toUInt64.toNat = n := Nat.mod_eq_of_lt (by omega)
  have read : AtMost (n + 2 ^ k) whole := by
    refine atMost_unpack_pack (atMost_normalize low ?_ (by linarith)) (by linarith)
    rw [same, zpow_zero, mul_one]
  change AtMost _ (Float.ofScientific n false 0).toModel.unpack
  unfold Float.ofScientific
  rw [dif_pos ⟨h, by decide⟩]
  change AtMost _ (unpack .binary64 (pack .binary64 (mul .binary64 whole
    (Float.exactlyRepresentablePowersOfTen[0]).toModel.unpack)))
  rw [one_parts]
  exact atMost_unpack_pack (atMost_mul_one read low size) (by linarith)

theorem exact_seconds_lt {span : Span} (h : span < Span.longest) :
    ∃ v, (Scalar.ofFloat span.seconds : Exact) = .finite v ∧ v < (span + 1 / 2) / Span.perSecond := by
  let whole := span / Span.perSecond
  let rest := span % Span.perSecond
  have wholeRange : whole < 604800 := Nat.div_lt_of_lt_mul (by rwa [Nat.mul_comm])
  have restRange : rest < 1000000000 := Nat.mod_lt span (by decide)
  have wholeRange' : (whole : ℚ) ≤ 604800 := by exact_mod_cast wholeRange.le
  have restRange' : (rest : ℚ) ≤ 1000000000 := by exact_mod_cast restRange.le
  have split : (span : ℚ) = whole * 1000000000 + rest := by
    exact_mod_cast (Nat.div_add_mod' span Span.perSecond).symm
  have billion : (1000000000 : Float).toModel.unpack =
      .finite .positive 8388608000000000 (-23) (by decide) := by
    rfl
  have size : ((8388608000000000 : Nat) : ℚ) * 2 ^ (-23 : Int) = 1000000000 := by norm_num
  have seconds : AtMost (whole + 2 ^ (-33 : Int) + 2 ^ (-33 : Int)) whole.toFloat.toModel.unpack :=
    atMost_toFloat (wholeRange.trans (by decide)) (by decide) (by decide) (by norm_num; linarith)
  have nanoseconds : AtMost (rest + 2 ^ (-23 : Int) + 2 ^ (-23 : Int)) rest.toFloat.toModel.unpack :=
    atMost_toFloat (restRange.trans (by decide)) (by decide) (by decide) (by norm_num; linarith)
  have part : AtMost ((rest + 2 ^ (-23 : Int) + 2 ^ (-23 : Int)) / 1000000000 + 2 ^ (-51 : Int))
      (rest.toFloat / 1000000000).toModel.unpack := by
    change AtMost _ (unpack .binary64 (pack .binary64 (div .binary64 rest.toFloat.toModel.unpack
      (1000000000 : Float).toModel.unpack)))
    rw [billion]
    refine atMost_unpack_pack ?_ (by norm_num; linarith)
    have quotient : AtMost ((rest + 2 ^ (-23 : Int) + 2 ^ (-23 : Int)) /
        ((8388608000000000 : Nat) * 2 ^ (-23 : Int)) + 2 ^ (-51 : Int))
        (div .binary64 rest.toFloat.toModel.unpack (.finite .positive 8388608000000000 (-23) (by decide))) :=
      atMost_div nanoseconds (by decide) (by rw [size]; norm_num; linarith)
    rwa [size] at quotient
  have sum := atMost_unpack_pack (atMost_add (k := -33) seconds part (by decide) (by norm_num; linarith))
    (by norm_num; linarith)
  obtain ⟨v, hv, most⟩ := sum.exact
  refine ⟨v, (ofFloat_exact _).trans hv, most.trans_lt ?_⟩
  rw [split, Span.perSecond]
  norm_num
  linarith

end Marquee.Number

namespace Marquee.Span

open Number

theorem ofSeconds_le_of_le_seconds {x : Float} {span : Span} (short : span < longest)
    (h : x ≤ span.seconds) : ofSeconds x ≤ span := by
  obtain ⟨v, hv, most⟩ := exact_seconds_lt short
  rw [lt_div_iff₀ (by decide)] at most
  rw [le_iff_exact, hv] at h
  by_cases pos : 0 < x
  · rw [ofSeconds_of_pos pos]
    split
    next long =>
      have beyond : Scalar.lt (.finite 604800 : Exact) (.finite v) := by
        rw [← exact_longest]
        exact Exact.lt_of_lt_of_le (lt_iff_exact.mp long) h
      rw [Exact.lt_finite, decide_eq_true_eq] at beyond
      have last : (span : ℚ) + 1 ≤ 604800 * perSecond := by exact_mod_cast short
      have more := mul_lt_mul_of_pos_right beyond (show (0 : ℚ) < perSecond by decide)
      linarith
    next within =>
      obtain ⟨num, den, hd, -, hx, hn⟩ := nearest_of_pos pos within
      have positive : (0 : ℚ) < den := Nat.cast_pos.mpr hd
      rw [hx, Exact.le_finite, decide_eq_true_eq, div_le_iff₀ positive] at h
      have scaled : (num : ℚ) * perSecond < (span + 1 / 2) * den := by
        calc (num : ℚ) * perSecond
          _ ≤ v * den * perSecond := mul_le_mul_of_nonneg_right h (by decide)
          _ = v * perSecond * den := by ring
          _ < (span + 1 / 2) * den := mul_lt_mul_of_pos_right most positive
      rw [hn]
      refine roundQuotient_le_of_lt .toEven ?_
      have twice : (2 : ℚ) * (num * perSecond) < (2 * span + 1) * den := by linarith
      exact_mod_cast twice
  · rw [ofSeconds_of_not_pos pos]
    exact Nat.zero_le _

end Marquee.Span
