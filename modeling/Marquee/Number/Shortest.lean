import Marquee.Number.Binary64

namespace Marquee.Number

structure Decimal where
  significand : Nat
  leading : Int
  deriving DecidableEq, Repr

def digitCount (n : Nat) : Nat :=
  (Nat.toDigits 10 n).length

def leadingExponent (num den : Nat) : Int :=
  if den ≤ num then digitCount (num / den) - 1
  else
    let width := digitCount (den / num)
    if den ≤ num * Nat.pow 10 (width - 1) then 1 - width else - (width : Int)

/--
The reals that round to `mantissa * 2 ^ exponent` lie between `low` and `high`, counted in steps of
`2 ^ (exponent - 2)`; the ends belong to them when the mantissa is even.
-/
structure RoundingInterval where
  low : Nat
  centre : Nat
  high : Nat
  closed : Bool
  stepNum : Nat
  stepDen : Nat

def RoundingInterval.of (mantissa : Nat) (exponent : Int) : RoundingInterval where
  low := if mantissa = Nat.pow 2 52 ∧ -1074 < exponent then 4 * mantissa - 1 else 4 * mantissa - 2
  centre := 4 * mantissa
  high := 4 * mantissa + 2
  closed := mantissa % 2 = 0
  stepNum := Nat.pow 2 (exponent - 2).toNat
  stepDen := Nat.pow 2 (2 - exponent).toNat

def RoundingInterval.holds (i : RoundingInterval) (candidate : Nat) (power : Int) : Bool :=
  let value := candidate * Nat.pow 10 power.toNat * i.stepDen
  let unit := Nat.pow 10 (-power).toNat * i.stepNum
  if i.closed then i.low * unit ≤ value && value ≤ i.high * unit
  else i.low * unit < value && value < i.high * unit

def RoundingInterval.gridPoint? (i : RoundingInterval) (tie : Tie) (power : Int) : Option Nat :=
  let num := i.centre * i.stepNum * Nat.pow 10 (-power).toNat
  let den := i.stepDen * Nat.pow 10 power.toNat
  let near := roundQuotient tie num den
  let below := num / den
  let far := if near = below then below + 1 else below
  if i.holds near power then some near
  else if i.holds far power then some far
  else none

def Decimal.ofGrid (digits : Nat) (leading : Int) (point : Nat) : Decimal :=
  if point = Nat.pow 10 digits then ⟨1, leading + 1⟩ else ⟨point, leading⟩

/-- Seventeen digits tell any two doubles apart, so the search ends with an answer. -/
def shortest (tie : Tie) (mantissa : Nat) (exponent : Int) : Decimal :=
  let i := RoundingInterval.of mantissa exponent
  let q := Binary64.quotient mantissa exponent
  let leading := leadingExponent q.1 q.2
  ((List.range' 1 17).findSome? fun (digits : Nat) =>
    (i.gridPoint? tie (leading + 1 - digits)).map (Decimal.ofGrid digits leading)).getD ⟨0, 0⟩

end Marquee.Number
