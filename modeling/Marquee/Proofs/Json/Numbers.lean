import Marquee.Proofs.Json.Records
import Marquee.Proofs.Number.Finite

namespace Marquee.Json

variable {α β : Type} {r : Reader α} {f : Option Char → Reader β} {g : Unit → Reader β}
  {tail cs : List Char}

def StableInside (tail : List Char) (r : Reader α) : Prop :=
  ∀ ⦃c cs v rest⦄, r (c :: cs) = .ok (v, rest) → r (c :: cs ++ tail) = .ok (v, rest ++ tail)

lemma Stable.inside (h : Stable tail r) : StableInside tail r :=
  fun _ _ _ _ hr => h hr

lemma StableInside.drop (h : Stable tail (g ())) : StableInside tail (Json.drop >>= g) :=
  fun _ _ _ _ hr => h hr

lemma Stable.next (inside : ∀ c, StableInside tail (f (some c)))
    (atEnd : ∀ v rest, f none [] = .ok (v, rest) → (Numeral.next >>= f) tail = .ok (v, rest ++ tail)) :
    Stable tail (Numeral.next >>= f) := by
  intro cs v rest h
  cases cs with
  | nil => exact atEnd v rest h
  | cons c cs => exact inside c h

lemma Stable.peek (inside : ∀ c, StableInside tail (f (some c)))
    (atEnd : ∀ v rest, f none [] ≠ .ok (v, rest)) : Stable tail (Json.peek >>= f) := by
  intro cs v rest h
  change f (cs.dropWhile isBlank).head? (cs.dropWhile isBlank) = _ at h
  change f ((cs ++ tail).dropWhile isBlank).head? ((cs ++ tail).dropWhile isBlank) = _
  rw [List.dropWhile_append]
  cases text : cs.dropWhile isBlank with
  | nil =>
    rw [text] at h
    exact absurd h (atEnd v rest)
  | cons c cs =>
    rw [text] at h
    exact inside c h

namespace Numeral

lemma takeWhile_digits (ends : ValueEnd tail) (cs : List Char) :
    (cs ++ tail).takeWhile isDigit = cs.takeWhile isDigit ∧
      (cs ++ tail).dropWhile isDigit = cs.dropWhile isDigit ++ tail := by
  induction cs with
  | nil => cases ends <;> exact ⟨rfl, rfl⟩
  | cons c cs ih =>
    by_cases digit : isDigit c
    · simp [digit, ih]
    · simp [digit]

lemma stable_digits (ends : ValueEnd tail) : Stable tail digits := by
  intro cs v rest h
  cases h
  obtain ⟨taken, left⟩ := takeWhile_digits ends cs
  unfold digits
  rw [taken, left]

lemma stable_exponentSign (ends : ValueEnd tail) : Stable tail exponentSign := by
  refine Stable.next (fun c => ?_) fun v rest h => ?_
  · split
    · exact .drop (.pure _)
    · exact .drop (.pure _)
    · exact (Stable.pure _).inside
  · cases h
    cases ends <;> rfl

lemma pastGreatest_append (ends : ValueEnd tail) {n : Nat} (h : pastGreatest n cs = none) :
    pastGreatest n (cs ++ tail) = none := by
  induction cs generalizing n with
  | nil => cases ends <;> rfl
  | cons c cs ih =>
    rw [List.cons_append]
    unfold pastGreatest at h ⊢
    dsimp only at h ⊢
    split_ifs at h ⊢
    · exact ih h
    · rfl

lemma stable_refuseHuge (ends : ValueEnd tail) : Stable tail refuseHuge := by
  intro cs v rest h
  unfold refuseHuge at h ⊢
  cases past : pastGreatest 0 cs with
  | some left =>
    rw [past] at h
    cases h
  | none =>
    rw [past] at h
    cases h
    rw [pastGreatest_append ends past]

lemma stable_exponent (ends : ValueEnd tail) (zero : Bool) : Stable tail (exponent zero) := by
  refine Stable.next (fun c => ?_) fun v rest h => ?_
  · split
    case h_3 => exact (Stable.pure _).inside
    all_goals
      refine .drop ((stable_exponentSign ends).bind fun negative => Stable.next (fun c => ?_) nofun)
      split
      · contradiction
      split
      · dsimp only
        split
        · exact ((stable_digits ends).bind fun _ => .pure _).inside
        · exact ((stable_refuseHuge ends).bind fun _ => (stable_digits ends).bind fun _ => .pure _).inside
      · exact (Stable.failNext _).inside
  · cases h
    cases ends <;> rfl

lemma stable_fraction (ends : ValueEnd tail) : Stable tail fraction := by
  refine Stable.next (fun c => ?_) fun v rest h => ?_
  · split
    · refine .drop ((stable_digits ends).bind fun ds => ?_)
      split
      · refine Stable.next (fun c => ?_) nofun
        exact (Stable.failNext _).inside
      · exact .pure _
    · exact (Stable.pure _).inside
  · cases h
    cases ends <;> rfl

lemma stable_wholeDigits (ends : ValueEnd tail) : Stable tail wholeDigits := by
  refine Stable.next (fun c => ?_) nofun
  split
  · contradiction
  · refine .drop (Stable.next (fun c => ?_) fun v rest h => ?_)
    · split
      · exact (Stable.failNext _).inside
      · exact (Stable.pure _).inside
    · cases h
      cases ends <;> rfl
  · split
    · exact (stable_digits ends).inside
    · exact (Stable.failNext _).inside

lemma stable_ofParts (negative : Bool) (value : Nat) (power : Int) :
    Stable tail (ofParts negative value power) := by
  unfold ofParts
  split
  · exact .pure _
  · exact .fail _

lemma stable_unsigned (ends : ValueEnd tail) (negative : Bool) : Stable tail (unsigned negative) := by
  refine (stable_wholeDigits ends).bind fun whole => (stable_fraction ends).bind fun behind =>
    (stable_exponent ends _).bind fun power => ?_
  split
  · exact stable_ofParts _ _ _
  · split
    · exact stable_ofParts _ _ _
    · exact .pure _

end Numeral

lemma stable_numeral (ends : ValueEnd tail) : Stable tail numeral := by
  refine Stable.next (fun c => ?_) nofun
  split
  · exact .drop (Numeral.stable_unsigned ends true)
  · exact (Numeral.stable_unsigned ends false).inside

lemma stable_float (ends : ValueEnd tail) : Stable tail float := by
  refine Stable.peek (fun c => ?_) nofun
  split
  · contradiction
  next c =>
    split
    · refine Stable.inside ((stable_numeral ends).bind fun n => ?_)
      exact .pure _
    · nofun

/-- The printed digits of `x` are read as `x` again, all of them. -/
def ReadsBack (x : Float) : Prop :=
  float (printedFloat x) = .ok (x, [])

def Faithful (xs : List Float) : Prop :=
  ∀ x ∈ xs, x.isFinite → ReadsBack x

lemma float_dropWhile (cs : List Char) : float (cs.dropWhile isBlank) = float cs := by
  have same : Json.peek (cs.dropWhile isBlank) = Json.peek cs := by
    unfold Json.peek
    rw [List.dropWhile_idempotent]
  exact bind_congr_text same

lemma ReadsBack.reads_optional {x : Float} (h : ReadsBack x) :
    Reads (optional float) (printedFloat x) (some x) := by
  intro tail ends
  have read : float ((printedFloat x).dropWhile isBlank) = .ok (x, []) := (float_dropWhile _).trans h
  cases text : (printedFloat x).dropWhile isBlank with
  | nil =>
    rw [text] at read
    cases read
  | cons c cs =>
    rw [text] at read
    have other : c ≠ 'n' := by
      rintro rfl
      cases read
    have peeked : Json.peek (printedFloat x ++ tail) = .ok (some c, c :: cs ++ tail) := by
      unfold Json.peek
      rw [List.dropWhile_append, text]
      rfl
    unfold optional
    rw [bind_of_ok peeked]
    simp only
    exact map_of_ok some (stable_float ends read)

lemma ReadsBack.ne_null {x : Float} (h : ReadsBack x) : printedFloat x ≠ "null".toList := by
  intro same
  rw [ReadsBack, same] at h
  cases h

lemma reads_optional_float (x : Option Float) (h : ∀ y, x = some y → ReadsBack y) :
    Reads (optional float) (printedOption printedFloat x) x := by
  cases x with
  | none => exact reads_null float
  | some x => exact (h x rfl).reads_optional

namespace Numeral

lemma isFinite_tenPow {k : Nat} (h : k ≤ 308) : (tenPow k).isFinite := by
  by_cases zero : k = 0
  · rw [zero]
    rfl
  · exact (Number.atLeastTwo_tenPow zero h).isFinite

lemma isFinite_scaledDown {x : Float} {k : Nat} (hx : x.isFinite) (hk : k ≠ 0) :
    (scaledDown x k).isFinite := by
  induction x, k using scaledDown.induct with
  | case1 x k small =>
    rw [scaledDown, if_pos small]
    exact Number.isFinite_div hx (Number.atLeastTwo_tenPow hk small)
  | case2 x k large zero =>
    rw [scaledDown, if_neg large, if_pos zero]
    exact hx
  | case3 x k large nonzero ih =>
    rw [scaledDown, if_neg large, if_neg nonzero]
    exact ih (Number.isFinite_div hx (Number.atLeastTwo_tenPow (by decide) (by decide))) (by omega)

lemma isFinite_scaled {value : Nat} {power : Int} {x : Float} (small : value ≤ greatestWord)
    (h : scaled? value power = some x) : x.isFinite := by
  have whole : value.toFloat.isFinite := Number.isFinite_toFloat (Nat.lt_of_le_of_lt small (by decide))
  unfold scaled? at h
  dsimp only at h
  split_ifs at h with negative range huge zero
  · cases h
    exact isFinite_scaledDown whole (by omega)
  · cases h
    have product := Number.isFinite_or_isInf_mul whole (isFinite_tenPow (show power.toNat ≤ 308 by omega))
    exact product.resolve_right huge
  · cases h
    exact whole

lemma isFinite_signed {x : Float} (negative : Bool) (h : x.isFinite) : (signed negative x).isFinite := by
  cases negative with
  | true => exact Number.isFinite_neg h
  | false => exact h

lemma whole_le (s : Significand) (digit : Nat) (h : s.value ≤ greatestWord) :
    (s.whole digit).value ≤ greatestWord := by
  unfold Significand.whole
  split
  · exact h
  next fits => exact Nat.le_of_not_lt fun large => fits (.inr large)

lemma fraction_le (s : Significand) (digit : Nat) (h : s.value ≤ greatestWord) :
    (s.fraction digit).value ≤ greatestWord := by
  unfold Significand.fraction
  split
  · exact h
  next fits => exact Nat.le_of_not_lt fun large => fits (.inr large)

lemma ofWhole_le (ds : List Char) : (Significand.ofWhole ds).value ≤ greatestWord := by
  unfold Significand.ofWhole
  exact List.foldlRecOn (motive := fun s : Significand => s.value ≤ greatestWord) ds _ (Nat.zero_le _)
    fun s h c _ => whole_le s (digitValue c) h

lemma extend_le (s : Significand) (ds : List Char) (h : s.value ≤ greatestWord) :
    (s.extend ds).value ≤ greatestWord := by
  unfold Significand.extend
  exact List.foldlRecOn (motive := fun s : Significand => s.value ≤ greatestWord) ds _ h
    fun s h c _ => fraction_le s (digitValue c) h

lemma ofParts_yields {negative : Bool} {value : Nat} {power : Int} (small : value ≤ greatestWord) :
    Yields (ofParts negative value power) fun n => n.toFloat.isFinite := by
  unfold ofParts
  split
  next x scaled => exact Yields.pure (isFinite_signed negative (isFinite_scaled small scaled))
  · exact Yields.fail _

lemma isFinite_ofWhole {n : Nat} (negative : Bool) (small : n ≤ greatestWord) :
    (ofWhole negative n).toFloat.isFinite := by
  have whole : n.toFloat.isFinite := Number.isFinite_toFloat (Nat.lt_of_le_of_lt small (by decide))
  unfold ofWhole
  split_ifs
  · exact Number.isFinite_neg whole
  · exact Number.isFinite_neg whole
  · exact whole

lemma unsigned_yields (negative : Bool) :
    Yields (unsigned negative) fun n => n.toFloat.isFinite := by
  refine Yields.after fun ds => Yields.after fun behind => Yields.after fun power => ?_
  have whole := ofWhole_le ds
  have all := extend_le _ (behind.getD []) whole
  split
  · exact ofParts_yields all
  · split
    · exact ofParts_yields all
    · exact Yields.pure (isFinite_ofWhole negative whole)

end Numeral

lemma numeral_yields : Yields numeral fun n => n.toFloat.isFinite := by
  refine Yields.after fun c => ?_
  split
  · exact Yields.after fun _ => Numeral.unsigned_yields true
  · exact Numeral.unsigned_yields false

theorem float_yields : Yields float fun x => x.isFinite := by
  refine Yields.after fun c => ?_
  split
  · exact Yields.fail _
  · split
    · exact numeral_yields.bind fun n hn => Yields.pure hn
    · exact Yields.failKind _

end Marquee.Json
