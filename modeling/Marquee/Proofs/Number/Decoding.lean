import Marquee.Number.Scalar
import Marquee.Proofs.Number.Sign

namespace Marquee.Number

open Float.Model (Format UnpackedFloat)
open Float.Model.UnpackedFloat

namespace Binary64

def hasMinus : Sign → Bool
  | .negative => true
  | .positive => false

def ofUnpacked : UnpackedFloat → Binary64
  | .notANumber => .nan
  | .infinity s => .infinite (hasMinus s)
  | .zero s => .finite (hasMinus s) 0 (-1074)
  | .finite s m e _ => .finite (hasMinus s) m e

lemma mantissa_bits (b : BitVec Format.binary64.numBits) :
    (unpackMantissa b).toNat = b.toNat % 2 ^ 52 := by
  rw [unpackMantissa_def, BitVec.extractLsb'_toNat, Nat.shiftRight_zero]

lemma exponent_bits (b : BitVec Format.binary64.numBits) :
    (unpackExponent b).toNat = b.toNat / 2 ^ 52 % 2 ^ 11 := by
  rw [unpackExponent_def, BitVec.extractLsb'_toNat, Nat.shiftRight_eq_div_pow]

lemma sign_bits (b : BitVec Format.binary64.numBits) :
    (unpackSign b).toNat = b.toNat / 2 ^ 63 % 2 := by
  rw [unpackSign_def, BitVec.extractLsb'_toNat, Nat.shiftRight_eq_div_pow]
  rfl

lemma hasMinus_ofBitVec (v : BitVec 1) : hasMinus (Sign.ofBitVec v) = decide (v.toNat = 1) := by
  revert v
  decide

theorem ofBits_eq (b : BitVec Format.binary64.numBits) :
    ofBits b.toNat = ofUnpacked (unpack .binary64 b) := by
  have bias : Format.binary64.exponentBias = 1023 := rfl
  have fraction : (unpackMantissa b).toNat = b.toNat % Nat.pow 2 52 := mantissa_bits b
  have field : (unpackExponent b).toNat = b.toNat / Nat.pow 2 52 % Nat.pow 2 11 := exponent_bits b
  have sign : decide (b.toNat / Nat.pow 2 63 % 2 = 1) = hasMinus (Sign.ofBitVec (unpackSign b)) := by
    rw [hasMinus_ofBitVec, sign_bits]
    rfl
  have full : unpackExponent b = -1#11 ↔ (unpackExponent b).toNat = 2047 := BitVec.toNat_inj.symm
  have empty : unpackExponent b = 0#11 ↔ (unpackExponent b).toNat = 0 := BitVec.toNat_inj.symm
  have whole : unpackMantissa b = 0#52 ↔ (unpackMantissa b).toNat = 0 := BitVec.toNat_inj.symm
  unfold ofBits unpack
  dsimp only
  rw [← fraction, ← field, sign]
  by_cases top : unpackExponent b = -1#11
  · rw [if_pos top, if_pos (full.mp top)]
    by_cases zero : unpackMantissa b = 0#52
    · rw [if_pos zero, if_pos (whole.mp zero)]
      rfl
    · rw [if_neg zero, if_neg (zero ∘ whole.mpr)]
      rfl
  rw [if_neg top, if_neg (top ∘ full.mpr)]
  by_cases bottom : unpackExponent b = 0#11
  · rw [if_pos bottom, if_pos (empty.mp bottom)]
    by_cases zero : unpackMantissa b = 0#52
    · rw [dif_pos zero, whole.mp zero]
      rfl
    · rw [dif_neg zero, bottom, bias]
      rfl
  · have implicit : (1#1 ++ unpackMantissa b).toNat = Nat.pow 2 52 + (unpackMantissa b).toNat := by
      rw [BitVec.toNat_append, ← Nat.shiftLeft_add_eq_or_of_lt (unpackMantissa b).isLt]
      rfl
    rw [if_neg bottom, if_neg (bottom ∘ empty.mpr), ofUnpacked, bias, implicit]
    rfl

theorem ofFloat_eq (x : Float) : ofFloat x = ofUnpacked x.toModel.unpack :=
  ofBits_eq x.toBits.toBitVec

end Binary64

end Marquee.Number
