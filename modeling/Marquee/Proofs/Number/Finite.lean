import Marquee.Proofs.Number.Decoding

namespace Marquee.Number

open Float.Model (Format UnpackedFloat totalExponent)
open Float.Model.UnpackedFloat

inductive Bounded (b : Int) : UnpackedFloat → Prop
  | zero (s : Sign) : Bounded b (.zero s)
  | finite {s : Sign} {m : Nat} {e : Int} {hm : 0 < m} (h : e ≤ b) : Bounded b (.finite s m e hm)

inductive AtLeastTwo : UnpackedFloat → Prop
  | finite {s : Sign} {m : Nat} {e : Int} {hm : 0 < m} (h : 2 ≤ totalExponent m e) :
    AtLeastTwo (.finite s m e hm)

instance : DecidablePred AtLeastTwo
  | .finite _ m e _ =>
    decidable_of_iff (2 ≤ totalExponent m e) ⟨.finite, fun | .finite h => h⟩
  | .zero _ | .infinity _ | .notANumber => .isFalse nofun

variable {b e : Int} {m : Nat} {x y t : UnpackedFloat}

lemma Bounded.isFinite (h : Bounded b x) : x.isFinite = true := by
  cases h <;> rfl

lemma AtLeastTwo.isFinite (h : AtLeastTwo t) : t.isFinite = true := by
  cases h
  rfl

/-! ### Packing -/

lemma bounded_unpack {v : BitVec Format.binary64.numBits} (proper : unpackExponent v ≠ -1#11)
    (low : -1074 ≤ b) (high : ((unpackExponent v).toNat : Int) ≤ b + 1075) :
    Bounded b (unpack .binary64 v) := by
  have bias : Format.binary64.exponentBias = 1023 := rfl
  unfold unpack
  dsimp only
  rw [if_neg proper, bias]
  split
  next bottom =>
    rw [bottom]
    split
    · exact .zero _
    · exact .finite low
  · apply Bounded.finite
    change ((unpackExponent v).toNat : Int) - ((1023 : Nat) + (52 : Nat)) ≤ b
    omega

lemma unpack_le {v : BitVec Format.binary64.numBits} {s : Sign} {hm : 0 < m}
    (h : unpack .binary64 v = .finite s m e hm) : e ≤ 971 := by
  have proper : unpackExponent v ≠ -1#11 := by
    intro top
    unfold unpack at h
    dsimp only at h
    rw [if_pos top] at h
    split at h <;> cases h
  have field : (unpackExponent v).toNat ≠ 2047 := fun top => proper (BitVec.eq_of_toNat_eq top)
  have range := (unpackExponent v).isLt
  change (unpackExponent v).toNat < 2048 at range
  have bound : Bounded 971 (unpack .binary64 v) := bounded_unpack proper (by decide) (by omega)
  rw [h] at bound
  cases bound with
  | finite range => exact range

lemma exponent_field_ne {n : Nat} (h : n < 2047) : BitVec.ofNat 11 n ≠ -1#11 := by
  intro same
  have field : n % 2 ^ 11 = 2047 := congrArg BitVec.toNat same
  omega

lemma pack_finite (hm : 0 < m) (h : e ≤ 971) (s : Sign) :
    pack .binary64 (.finite s m e hm) =
      if m.log2 = 52 then packComponents .binary64 s (.ofNat 11 (e + 1075).toNat) (.ofNat 52 m)
      else packComponents .binary64 s 0#11 (.ofNat 52 m) := by
  have bias : e + Format.binary64.exponentBias + (52 : Nat) = e + 1075 := by
    change e + (1023 : Nat) + (52 : Nat) = _
    omega
  have bits : m.log2 + 1 = Format.binary64.mantissaBits ↔ m.log2 = 52 := by
    change m.log2 + 1 = 53 ↔ _
    omega
  unfold pack
  dsimp only
  rw [bias, if_neg (by omega)]
  simp only [bits]

theorem bounded_unpack_pack (h : Bounded b x) (low : -1074 ≤ b) (high : b ≤ 971) :
    Bounded b (unpack .binary64 (pack .binary64 x)) := by
  cases h with
  | zero s =>
    rw [pack, unpack_packedZero]
    exact .zero s
  | @finite s m e hm range =>
    rw [pack_finite hm (range.trans high)]
    split
    · apply bounded_unpack _ low <;> rw [unpackExponent_packComponents]
      · have field : (BitVec.ofNat 11 (e + 1075).toNat).toNat ≤ (e + 1075).toNat := by
          rw [BitVec.toNat_ofNat]
          exact Nat.mod_le _ _
        change ((BitVec.ofNat 11 (e + 1075).toNat).toNat : Int) ≤ b + 1075
        omega
      · exact exponent_field_ne (by omega)
    · apply bounded_unpack _ low <;> rw [unpackExponent_packComponents]
      · change (0 : Int) ≤ b + 1075
        omega
      · decide

lemma isFinite_unpack_pack (h : Bounded 971 x) :
    (unpack .binary64 (pack .binary64 x)).isFinite = true :=
  (bounded_unpack_pack h (by decide) (by decide)).isFinite

lemma unpack_packedInfinity (s : Sign) :
    unpack .binary64 (packedInfinity .binary64 s) = .infinity s := by
  simp [unpack, packedInfinity]

lemma isFinite_or_isInf_unpack_pack (h : x.isFinite = true) :
    (unpack .binary64 (pack .binary64 x)).isFinite = true ∨
      (unpack .binary64 (pack .binary64 x)).isInf = true := by
  cases x with
  | infinity | notANumber => cases h
  | zero s =>
    left
    rw [pack, unpack_packedZero]
    rfl
  | finite s m e hm =>
    by_cases range : e ≤ 971
    · left
      exact isFinite_unpack_pack (.finite range)
    · right
      have beyond : 2 ^ 11 ≤ (e + Format.binary64.exponentBias + (52 : Nat)).toNat + 1 := by
        change 2048 ≤ (e + (1023 : Nat) + (52 : Nat)).toNat + 1
        omega
      unfold pack
      dsimp only
      rw [if_pos beyond, unpack_packedInfinity]
      rfl

lemma unpack_pack_normal (hm : 0 < m) (s : Sign) (full : m.log2 = 52)
    (low : -1074 ≤ e) (high : e ≤ 971) :
    unpack .binary64 (pack .binary64 (.finite s m e hm)) = .finite s m e hm := by
  have bounds : 2 ^ 52 ≤ m ∧ m < 2 ^ 53 := (Nat.log2_eq_iff (Nat.ne_of_gt hm)).mp full
  have field : (BitVec.ofNat 11 (e + 1075).toNat).toNat = (e + 1075).toNat := by
    rw [BitVec.toNat_ofNat]
    omega
  have bottom : BitVec.ofNat 11 (e + 1075).toNat ≠ 0#11 := by
    intro same
    have zero : (BitVec.ofNat 11 (e + 1075).toNat).toNat = 0 := congrArg BitVec.toNat same
    omega
  have mantissa : (1#1 ++ BitVec.ofNat 52 m).toNat = m := by
    rw [BitVec.toNat_append, ← Nat.shiftLeft_add_eq_or_of_lt (BitVec.ofNat 52 m).isLt,
      BitVec.toNat_ofNat]
    change 2 ^ 52 + m % 2 ^ 52 = m
    omega
  have exponent : ((e + 1075).toNat : Int) - (Format.binary64.exponentBias + (52 : Nat)) = e := by
    change ((e + 1075).toNat : Int) - ((1023 : Nat) + (52 : Nat)) = e
    omega
  rw [pack_finite hm high, if_pos full]
  unfold unpack
  dsimp only
  simp only [unpackExponent_packComponents, unpackMantissa_packComponents, unpackSign_packComponents,
    Sign.ofBitVec_toBitVec, if_neg (exponent_field_ne (show (e + 1075).toNat < 2047 by omega)),
    if_neg bottom, field, mantissa, exponent]

/-! ### Rounding -/

lemma log2_le_of_lt {m k : Nat} (h : m < 2 ^ (k + 1)) : m.log2 ≤ k := by
  by_cases zero : m = 0
  · rw [zero]
    exact Nat.zero_le k
  · exact Nat.le_of_lt_succ ((Nat.log2_lt zero).mpr h)

lemma roundedMantissa_le (x : ExtendedMantissa) : x.roundedMantissa ≤ x.mantissa + 1 := by
  obtain ⟨m, r, s⟩ := x
  cases r <;> cases s <;>
    simp only [ExtendedMantissa.roundedMantissa, ExtendedMantissa.accuracy,
      Accuracy.roundToNearestEven] <;> omega

lemma bounded_roundWithAccuracy (low : -1074 ≤ b) (he : e ≤ b) (ht : totalExponent m e ≤ b + 53)
    (s : Sign) (accuracy : Accuracy) :
    Bounded (b + 1) (roundWithAccuracy .binary64 s m e accuracy) := by
  have top : (m.log2 : Int) + 1 + e ≤ b + 53 := ht
  obtain ⟨mantissa, exponent⟩ := shiftToTargetExponent_eq m e accuracy
  have rounded := roundedMantissa_le (shiftToTargetExponent .binary64 m e accuracy).1
  -- 53 bits are left by the first shift; the second one takes off the bit that rounding up may add
  unfold roundWithAccuracy
  dsimp only
  generalize shiftToTargetExponent .binary64 m e accuracy = first at *
  obtain ⟨-, again⟩ := shiftToTargetExponent_eq first.1.roundedMantissa first.2 .exact
  rw [targetExponent_eq] at mantissa exponent again
  have small : first.1.mantissa < 2 ^ 53 := by
    rw [mantissa]
    have bits := Nat.lt_log2_self (n := m)
    apply Nat.div_lt_of_lt_mul
    rw [← Nat.pow_add]
    exact bits.trans_le (Nat.pow_le_pow_right Nat.two_pos (by omega))
  have carried : first.1.roundedMantissa.log2 ≤ 53 := log2_le_of_lt (by omega)
  split
  · exact .zero s
  · apply Bounded.finite
    omega

lemma roundWithAccuracy_full (wide : 52 ≤ m.log2) (low : -1021 ≤ totalExponent m e)
    (s : Sign) (accuracy : Accuracy) :
    ∃ m' e' hm, roundWithAccuracy .binary64 s m e accuracy = .finite s m' e' hm ∧ m'.log2 = 52 ∧
      totalExponent m e - 53 ≤ e' := by
  have bottom : -1021 ≤ (m.log2 : Int) + 1 + e := low
  obtain ⟨mantissa, exponent⟩ := shiftToTargetExponent_eq m e accuracy
  have rounded := le_roundedMantissa (shiftToTargetExponent .binary64 m e accuracy).1
  unfold roundWithAccuracy
  dsimp only
  generalize shiftToTargetExponent .binary64 m e accuracy = first at *
  obtain ⟨shorter, again⟩ := shiftToTargetExponent_eq first.1.roundedMantissa first.2 .exact
  rw [targetExponent_eq] at mantissa exponent again shorter
  have length : first.1.mantissa.log2 = 52 := by
    rw [mantissa, log2_shifted]
    omega
  have nonzero : first.1.mantissa ≠ 0 := by
    intro zero
    rw [zero] at length
    exact absurd length (by decide)
  have grown : 52 ≤ first.1.roundedMantissa.log2 :=
    (Nat.le_log2 (by omega)).mpr (((Nat.le_log2 nonzero).mp length.ge).trans rounded)
  have final : (shiftToTargetExponent .binary64 first.1.roundedMantissa first.2 .exact).1.mantissa.log2 = 52 := by
    rw [shorter, log2_shifted]
    omega
  have kept : (shiftToTargetExponent .binary64 first.1.roundedMantissa first.2 .exact).1.mantissa ≠ 0 := by
    intro zero
    rw [zero] at final
    exact absurd final (by decide)
  rw [dif_neg kept]
  refine ⟨_, _, _, rfl, final, ?_⟩
  change (m.log2 : Int) + 1 + e - 53 ≤ _
  omega

lemma isFinite_roundWithAccuracy (s : Sign) (m : Nat) (e : Int) (accuracy : Accuracy) :
    (roundWithAccuracy .binary64 s m e accuracy).isFinite = true := by
  unfold roundWithAccuracy
  dsimp only
  split <;> rfl

/-! ### Operations -/

lemma isFinite_mul (hx : x.isFinite = true) (hy : y.isFinite = true) :
    (mul .binary64 x y).isFinite = true := by
  cases x with
  | infinity | notANumber => cases hx
  | zero =>
    cases y with
    | infinity | notANumber => cases hy
    | zero | finite => rfl
  | finite =>
    cases y with
    | infinity | notANumber => cases hy
    | zero => rfl
    | finite => exact isFinite_roundWithAccuracy _ _ _ _

theorem isFinite_or_isInf_mul {x y : Float} (hx : x.isFinite) (hy : y.isFinite) :
    (x * y).isFinite ∨ (x * y).isInf :=
  isFinite_or_isInf_unpack_pack (isFinite_mul hx hy)

lemma bounded_of_isFinite {x : Float} (hx : x.isFinite) : Bounded 971 x.toModel.unpack := by
  have real : x.toModel.unpack.isFinite = true := hx
  cases parts : x.toModel.unpack with
  | infinity | notANumber =>
    rw [parts] at real
    cases real
  | zero s => exact .zero s
  | finite s m e hm => exact .finite (unpack_le parts)

lemma Bounded.neg (h : Bounded b x) : Bounded b (neg x) := by
  cases h with
  | zero s => exact .zero (-s)
  | finite h => exact .finite h

theorem isFinite_neg {x : Float} (hx : x.isFinite) : (-x).isFinite :=
  isFinite_unpack_pack (bounded_of_isFinite hx).neg

lemma log2_shiftLeft (hm : m ≠ 0) (n : Nat) : (m <<< n).log2 = m.log2 + n := by
  induction n with
  | zero => rfl
  | succ n ih =>
    have nonzero : m <<< n ≠ 0 := by
      rw [Nat.shiftLeft_eq]
      exact Nat.mul_ne_zero hm (Nat.ne_of_gt (Nat.two_pow_pos n))
    rw [Nat.shiftLeft_succ, Nat.log2_two_mul nonzero, ih, Nat.add_assoc]

lemma log2_div_le (m : Nat) {n : Nat} (hn : n ≠ 0) : (m / n).log2 ≤ m.log2 - n.log2 := by
  have front : m / n * 2 ^ n.log2 ≤ m :=
    (Nat.mul_le_mul_left _ (Nat.log2_self_le hn)).trans (Nat.div_mul_le_self m n)
  apply log2_le_of_lt
  by_contra! wide
  have total : 2 ^ (m.log2 + 1) ≤ 2 ^ (m.log2 - n.log2 + 1) * 2 ^ n.log2 := by
    rw [← Nat.pow_add]
    exact Nat.pow_le_pow_right Nat.two_pos (by omega)
  have bits := Nat.lt_log2_self (n := m)
  exact absurd ((total.trans (Nat.mul_le_mul_right _ wide)).trans front) (Nat.not_le.mpr bits)

lemma bounded_div {s₁ s₂ : Sign} {m₁ m₂ : Nat} {e₁ e₂ : Int} {h₁ : 0 < m₁} {h₂ : 0 < m₂}
    (bits : m₁.log2 ≤ 52) (range : e₁ ≤ 971) (two : 2 ≤ totalExponent m₂ e₂) :
    Bounded 971 (div .binary64 (.finite s₁ m₁ e₁ h₁) (.finite s₂ m₂ e₂ h₂)) := by
  let target := min (e₁ - e₂)
    (Format.binary64.targetExponent (totalExponent m₁ e₁ - totalExponent m₂ e₂))
  let shift := (e₁ - e₂ - target).toNat
  have first : totalExponent m₁ e₁ = m₁.log2 + 1 + e₁ := rfl
  have second : totalExponent m₂ e₂ = m₂.log2 + 1 + e₂ := rfl
  have htarget : target = min (e₁ - e₂)
      (max (totalExponent m₁ e₁ - totalExponent m₂ e₂ - 53) (-1074)) := rfl
  have shifted := log2_shiftLeft (Nat.ne_of_gt h₁) shift
  have quotient := log2_div_le (m₁ <<< shift) (Nat.ne_of_gt h₂)
  have size : totalExponent ((m₁ <<< shift) / m₂) target ≤ 970 + 53 := by
    change (((m₁ <<< shift) / m₂).log2 : Int) + 1 + target ≤ 970 + 53
    omega
  exact bounded_roundWithAccuracy (by decide) (show target ≤ 970 by omega) size _ _

theorem isFinite_div {x t : Float} (hx : x.isFinite) (ht : AtLeastTwo t.toModel.unpack) :
    (x / t).isFinite := by
  have bound : Bounded 971 (div .binary64 x.toModel.unpack t.toModel.unpack) := by
    have range := bounded_of_isFinite hx
    have bits {s m e hm} (parts : x.toModel.unpack = .finite s m e hm) := (unpack_finite parts).1
    generalize x.toModel.unpack = u at range bits ⊢
    generalize t.toModel.unpack = divisor at ht
    cases ht with
    | finite two =>
      cases range with
      | zero => exact .zero _
      | finite range => exact bounded_div (bits rfl) range two
  exact isFinite_unpack_pack bound

/-! ### Whole numbers and powers of ten -/

lemma one_parts : (Float.exactlyRepresentablePowersOfTen[0]).toModel.unpack =
    .finite .positive (2 ^ 52) (-52) (by decide) := by
  rfl

lemma bounded_normalize {n : Nat} (h : n.log2 ≤ 63) :
    Bounded 12 (UnpackedFloat.normalize .binary64 n 0 .positive) := by
  unfold UnpackedFloat.normalize
  split
  next negative =>
    rw [Int.compare_eq_lt] at negative
    omega
  · exact .zero _
  next positive =>
    rw [Int.compare_eq_gt] at positive
    have nonzero : n ≠ 0 := by omega
    let shift := (0 - Format.binary64.targetExponent (totalExponent n 0)).toNat
    have size : totalExponent (n <<< shift) (0 - shift) ≤ 11 + 53 := by
      change ((n <<< shift).log2 : Int) + 1 + (0 - shift) ≤ 11 + 53
      rw [log2_shiftLeft nonzero]
      omega
    exact bounded_roundWithAccuracy (by decide) (show (0 : Int) - shift ≤ 11 by omega) size _ _

lemma bounded_mul_one (h : Bounded 12 x) (bits : ∀ s m e hm, x = .finite s m e hm → m.log2 ≤ 52) :
    Bounded 971 (mul .binary64 x (.finite .positive (2 ^ 52) (-52) (by decide))) := by
  cases h with
  | zero => exact .zero _
  | @finite s m e hm range =>
    have length := bits s m e hm rfl
    have product : (m * 2 ^ 52).log2 = m.log2 + 52 := by
      rw [← Nat.shiftLeft_eq]
      exact log2_shiftLeft (Nat.ne_of_gt hm) 52
    have size : totalExponent (m * 2 ^ 52) (e + -52) ≤ 970 + 53 := by
      change ((m * 2 ^ 52).log2 : Int) + 1 + (e + -52) ≤ 970 + 53
      omega
    exact bounded_roundWithAccuracy (by decide) (by omega) size _ _

lemma ofScientific_whole {n k : Nat} (hn : n ≠ 0) (hk : k ≤ 308) :
    ofScientific .binary64 n k =
      roundWithAccuracy .binary64 .positive ((n <<< 53) * 10 ^ k) (-53 + 0) .exact := by
  unfold ofScientific
  rw [dif_neg hn, if_neg, if_neg, if_pos (Int.natCast_nonneg k)]
  · rfl
  · change ¬ (k : Int) < -((2 ^ 11 : Int) + n.log2)
    omega
  · change ¬ (k : Int) > 2 ^ 11
    omega

theorem isFinite_toFloat {n : Nat} (h : n < 2 ^ 64) : n.toFloat.isFinite := by
  have bits : n.log2 ≤ 63 := log2_le_of_lt h
  change (Float.ofScientific n false 0).toModel.unpack.isFinite = true
  unfold Float.ofScientific
  split
  next small =>
    let whole := unpack .binary64 (pack .binary64 (UnpackedFloat.normalize .binary64 n.toUInt64.toNat 0 .positive))
    have same : n.toUInt64.toNat = n := Nat.mod_eq_of_lt h
    have bound : Bounded 12 whole :=
      bounded_unpack_pack (bounded_normalize (same.symm ▸ bits)) (by decide) (by decide)
    have product : Bounded 971 (mul .binary64 whole (.finite .positive (2 ^ 52) (-52) (by decide))) :=
      bounded_mul_one bound fun _ _ _ _ parts => (unpack_finite parts).1
    change (unpack .binary64 (pack .binary64 (mul .binary64 whole
      (Float.exactlyRepresentablePowersOfTen[0]).toModel.unpack))).isFinite = true
    rw [one_parts]
    exact isFinite_unpack_pack product
  next large =>
    have nonzero : n ≠ 0 := by omega
    have size : totalExponent ((n <<< 53) * 10 ^ 0) (-53 + 0) ≤ 970 + 53 := by
      change (((n <<< 53) * 1).log2 : Int) + 1 + (-53 + 0) ≤ 970 + 53
      rw [Nat.mul_one, log2_shiftLeft nonzero]
      omega
    have bound : Bounded (970 + 1) (ofScientific .binary64 n (0 : Nat)) := by
      rw [ofScientific_whole nonzero (by omega)]
      exact bounded_roundWithAccuracy (by omega) (by omega) size .positive .exact
    change (unpack .binary64 (pack .binary64 (ofScientific .binary64 n (0 : Nat)))).isFinite = true
    exact isFinite_unpack_pack bound

lemma atLeastTwo_small : ∀ k ≤ 22, k ≠ 0 → AtLeastTwo (Float.ofScientific 1 false k).toModel.unpack := by
  decide +kernel

lemma atLeastTwo_greatest : AtLeastTwo (Float.ofScientific 1 false 308).toModel.unpack := by
  decide +kernel

lemma log2_ten_pow {k : Nat} (positive : k ≠ 0) (range : k ≤ 307) :
    1 ≤ (10 ^ k).log2 ∧ (10 ^ k).log2 ≤ 1022 := by
  have nonzero : 10 ^ k ≠ 0 := Nat.ne_of_gt (Nat.pow_pos (by decide))
  have ten : 10 ^ 1 ≤ 10 ^ k := Nat.pow_le_pow_right (by decide) (Nat.pos_of_ne_zero positive)
  -- no power beyond the 61st is computed
  have grows (j : Nat) (h : k ≤ j) : 10 ^ k ≤ 10 ^ j := Nat.pow_le_pow_right (by decide) h
  have part : 10 ^ 61 ≤ 2 ^ 203 := by decide
  have greatest : 10 ^ (61 * 5 + 2) ≤ 2 ^ (203 * 5 + 7) := by
    simp only [Nat.pow_add, Nat.pow_mul]
    exact Nat.mul_le_mul (Nat.pow_le_pow_left part 5) (by decide)
  have doubled (n : Nat) : 2 ^ n < 2 ^ (n + 1) := Nat.pow_lt_pow_succ (by decide)
  have below := ((grows (61 * 5 + 2) range).trans greatest).trans_lt (doubled (203 * 5 + 7))
  have top : (10 ^ k).log2 ≤ 203 * 5 + 7 := log2_le_of_lt below
  exact ⟨(Nat.le_log2 nonzero).mpr (.trans (by decide) ten), top⟩

theorem atLeastTwo_tenPow {k : Nat} (positive : k ≠ 0) (range : k ≤ 308) :
    AtLeastTwo (Float.ofScientific 1 false k).toModel.unpack := by
  by_cases small : k ≤ 22
  · exact atLeastTwo_small k small positive
  by_cases greatest : k = 308
  -- here the bound on rounding is one bit too weak
  · subst greatest
    exact atLeastTwo_greatest
  have bits := log2_ten_pow positive (by omega)
  have product : (1 <<< 53) * 10 ^ k = (10 ^ k) <<< 53 := by
    rw [Nat.one_shiftLeft, Nat.shiftLeft_eq, Nat.mul_comm]
  have length : ((1 <<< 53) * 10 ^ k).log2 = (10 ^ k).log2 + 53 := by
    rw [product, log2_shiftLeft (Nat.ne_of_gt (Nat.pow_pos (by decide)))]
  have size : totalExponent ((1 <<< 53) * 10 ^ k) (-53 + 0) = (10 ^ k).log2 + 1 := by
    change (((1 <<< 53) * 10 ^ k).log2 : Int) + 1 + (-53 + 0) = _
    omega
  obtain ⟨m, e, hm, parts, full, least⟩ :=
    roundWithAccuracy_full (m := (1 <<< 53) * 10 ^ k) (e := -53 + 0) (by omega) (by omega)
      .positive .exact
  have bound := bounded_roundWithAccuracy (b := 970) (by decide) (by decide)
    (show totalExponent ((1 <<< 53) * 10 ^ k) (-53 + 0) ≤ 970 + 53 by omega) .positive .exact
  rw [parts] at bound
  cases bound with
  | finite most =>
    have value : (Float.ofScientific 1 false k).toModel.unpack = .finite .positive m e hm := by
      unfold Float.ofScientific
      rw [dif_neg fun h => small h.2]
      change unpack .binary64 (pack .binary64 (ofScientific .binary64 1 k)) = _
      rw [ofScientific_whole (by decide) range, parts]
      exact unpack_pack_normal hm .positive full (by omega) most
    rw [value]
    apply AtLeastTwo.finite
    change 2 ≤ (m.log2 : Int) + 1 + e
    omega

end Marquee.Number
