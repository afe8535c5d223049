import Marquee.Proofs.Number.Order
import Marquee.Time.ManualClock

namespace Marquee

namespace Number

variable {num den k : Nat}

lemma roundQuotient_le_of_le (tie : Tie) (hd : 0 < den) (h : num ≤ k * den) :
    roundQuotient tie num den ≤ k := by
  rcases Nat.lt_or_ge (num / den) k with below | above
  · exact Nat.le_trans (roundQuotient_le tie num den) below
  · have exact : num = k * den := Nat.le_antisymm h ((Nat.le_div_iff_mul_le hd).mp above)
    simp [roundQuotient, exact, Nat.mul_div_cancel k hd, Nat.ne_of_lt hd]

lemma roundQuotient_le_of_lt (tie : Tie) (h : 2 * num < (2 * k + 1) * den) :
    roundQuotient tie num den ≤ k := by
  have hd : 0 < den := Nat.pos_of_ne_zero (by rintro rfl; simp at h)
  have split := Nat.div_add_mod num den
  rcases Nat.lt_or_ge (num / den) k with below | above
  · exact Nat.le_trans (roundQuotient_le tie num den) below
  · -- The quotient is `k`, and the rest is less than a half.
    have front : k * den ≤ num := (Nat.le_div_iff_mul_le hd).mp above
    have next : num < (k + 1) * den := by
      rw [Nat.add_mul] at h ⊢
      rw [Nat.mul_assoc] at h
      omega
    have whole : num / den = k := Nat.div_eq_of_lt_le front next
    have rest : 2 * (num % den) < den := by
      rw [whole, Nat.mul_comm] at split
      rw [Nat.add_mul, Nat.mul_assoc] at h
      omega
    simp [roundQuotient, whole, rest.not_gt, rest.ne]

lemma roundQuotient_toEven_eq_zero (hd : 0 < den) : roundQuotient .toEven num den = 0 ↔ 2 * num ≤ den := by
  rcases Nat.lt_or_ge num den with short | long
  · simp only [roundQuotient, Nat.div_eq_of_lt short, Nat.mod_eq_of_lt short]
    split <;> simp <;> omega
  · have whole : 1 ≤ num / den := (Nat.le_div_iff_mul_le hd).mpr (by omega)
    have least := div_le_roundQuotient .toEven num den
    omega

lemma nearest_of_exact {x : Float} {q : ℚ} (h : (Scalar.ofFloat x : Exact) = .finite q) (hq : 0 ≤ q) :
    ∃ num den : Nat, 0 < den ∧ q = num / den ∧
      ∀ tie scale, Binary64.nearest tie scale x = roundQuotient tie (num * scale) den := by
  have value : Exact.ofBinary64 (Binary64.ofFloat x) = .finite q := h
  cases hx : Binary64.ofFloat x with
  | nan | infinite => simp [hx, Exact.ofBinary64] at value
  | finite negative m e =>
    have den := Binary64.quotient_den_pos m e
    refine ⟨_, _, den, ?_, fun _ _ => by rw [Binary64.nearest, hx]⟩
    rw [hx] at value
    obtain rfl : Exact.ofParts negative m e = q := Exact.finite.inj value
    have size : (0 : ℚ) ≤ (Binary64.quotient m e).1 / (Binary64.quotient m e).2 := by positivity
    cases negative with
    | false => rfl
    | true =>
      have zero := le_antisymm (neg_nonneg.mp hq) size
      rw [zero]
      exact neg_eq_zero.mpr zero

end Number

namespace Span

open Number

def longest : Span :=
  604800 * perSecond

def halfNanosecond : Exact :=
  .finite (1 / 2000000000)

variable {x : Float}

lemma exact_longest : (Scalar.ofFloat longestSeconds : Exact) = .finite 604800 := by
  decide +kernel

lemma isFinite_longest : longestSeconds.isFinite :=
  isFinite_iff_exact.mpr ⟨_, exact_longest⟩

lemma longest_pos : 0 < longestSeconds := by
  rw [lt_iff_exact, ofFloat_zero, exact_longest, Exact.lt_finite]
  norm_num

lemma nearest_longest : nearest longestSeconds = longest := by
  decide +kernel

lemma ofSeconds_of_pos (h : 0 < x) :
    ofSeconds x = nearest (if longestSeconds < x then longestSeconds else x) := by
  rw [ofSeconds, Double.isNaN_of_lt h, decide_eq_false (Double.not_le_of_lt h)]
  rfl

lemma ofSeconds_of_not_pos (h : ¬ 0 < x) : ofSeconds x = 0 := by
  rw [ofSeconds, if_pos]
  rw [Bool.or_eq_true, decide_eq_true_iff]
  by_cases number : x.isNaN
  · exact .inl number
  · exact .inr (Double.le_of_not_lt (Bool.eq_false_iff.mpr number) (Double.isNaN_of_isFinite isFinite_zero) h)

lemma nearest_of_pos (h : 0 < x) (short : ¬ longestSeconds < x) :
    ∃ num den : Nat, 0 < den ∧ num ≤ 604800 * den ∧
      (Scalar.ofFloat x : Exact) = .finite (num / den) ∧
      nearest x = roundQuotient .toEven (num * perSecond) den := by
  have low := le_iff_exact.mp (Double.le_of_lt h)
  have high := le_iff_exact.mp
    (Double.le_of_not_lt (Double.isNaN_of_lt h) (Double.isNaN_of_isFinite isFinite_longest) short)
  rw [ofFloat_zero] at low
  rw [exact_longest] at high
  obtain ⟨q, hq, hlow, hhigh⟩ := Exact.finite_of_between low high
  obtain ⟨num, den, hd, rfl, hn⟩ := nearest_of_exact hq hlow
  refine ⟨num, den, hd, ?_, hq, hn .toEven perSecond⟩
  rw [div_le_iff₀ (Nat.cast_pos.mpr hd)] at hhigh
  exact_mod_cast hhigh

theorem ofSeconds_le_longest (x : Float) : ofSeconds x ≤ longest := by
  by_cases h : 0 < x
  · rw [ofSeconds_of_pos h]
    split
    · exact Nat.le_of_eq nearest_longest
    next short =>
      obtain ⟨num, den, hd, range, -, hn⟩ := nearest_of_pos h short
      rw [hn]
      refine roundQuotient_le_of_le .toEven hd ?_
      calc num * perSecond
        _ ≤ 604800 * den * perSecond := Nat.mul_le_mul_right _ range
        _ = longest * den := Nat.mul_right_comm _ _ _
  · rw [ofSeconds_of_not_pos h]
    exact Nat.zero_le _

theorem ofSeconds_pos_iff : 1 ≤ ofSeconds x ↔ Scalar.lt halfNanosecond (Scalar.ofFloat x : Exact) := by
  by_cases h : 0 < x
  · rw [ofSeconds_of_pos h]
    split
    next long =>
      have week : 1 ≤ nearest longestSeconds := by
        rw [nearest_longest]
        decide
      have half : Scalar.lt halfNanosecond (Scalar.ofFloat longestSeconds : Exact) := by
        rw [exact_longest, halfNanosecond, Exact.lt_finite]
        norm_num
      exact iff_of_true week (Exact.lt_of_lt_of_le half (Exact.le_of_lt (lt_iff_exact.mp long)))
    next short =>
      obtain ⟨num, den, hd, -, hx, hn⟩ := nearest_of_pos h short
      have zero : roundQuotient .toEven (num * perSecond) den = 0 ↔ 2 * (num * perSecond) ≤ den :=
        roundQuotient_toEven_eq_zero hd
      have half : (1 / 2000000000 : ℚ) < num / den ↔ den < 2 * (num * perSecond) := by
        rw [div_lt_div_iff₀ (by decide) (Nat.cast_pos.mpr hd), one_mul]
        rw [show 2 * (num * perSecond) = num * 2000000000 by rw [perSecond]; omega]
        exact_mod_cast Iff.rfl
      rw [hn, hx, halfNanosecond, Exact.lt_finite, decide_eq_true_iff, half, Nat.one_le_iff_ne_zero,
        ne_eq, zero, Nat.not_le]
  · rw [ofSeconds_of_not_pos h]
    refine iff_of_false (by decide) fun more => h (lt_iff_exact.mpr ?_)
    have half : Scalar.le (.finite 0) halfNanosecond := by
      rw [halfNanosecond, Exact.le_finite]
      norm_num
    rw [ofFloat_zero]
    exact Exact.lt_of_le_of_lt half more

/-- A span for a number of seconds: at most seven days, and nothing only up to half a nanosecond. -/
def Renders (span : Span) (seconds : Float) : Prop :=
  span ≤ longest ∧
    (1 ≤ span ↔ Number.Scalar.lt halfNanosecond (Number.Scalar.ofFloat seconds : Number.Exact))

lemma ofSeconds_renders (seconds : Float) : (ofSeconds seconds).Renders seconds :=
  ⟨ofSeconds_le_longest seconds, ofSeconds_pos_iff⟩

end Span

theorem ManualClock.advanceSeconds_renders (c : ManualClock) (seconds : Float) :
    ∃ span : Span, c.advanceSeconds seconds = c.advance span ∧ span.Renders seconds :=
  ⟨Span.ofSeconds seconds, rfl, Span.ofSeconds_renders seconds⟩

end Marquee
