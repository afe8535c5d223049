/-! Rounding a quotient of naturals to the nearest whole number. -/

namespace Marquee.Number

inductive Tie
  | toEven
  | upward
  deriving DecidableEq, Repr

def roundQuotient (tie : Tie) (num den : Nat) : Nat :=
  let whole := num / den
  let twice := 2 * (num % den)
  if den < twice then whole + 1
  else if twice = den then
    match tie with
    | .toEven => whole + whole % 2
    | .upward => whole + 1
  else whole

theorem div_le_roundQuotient (tie : Tie) (num den : Nat) :
    num / den ≤ roundQuotient tie num den := by
  unfold roundQuotient
  cases tie <;> grind

theorem roundQuotient_le (tie : Tie) (num den : Nat) :
    roundQuotient tie num den ≤ num / den + 1 := by
  unfold roundQuotient
  cases tie <;> grind

end Marquee.Number
