import Marquee.Number.Binary64

/-! The arithmetic of animations, written once for doubles and for exact fractions. -/

namespace Marquee.Number

class Scalar (α : Type) extends Add α, Sub α, Mul α, Div α where
  ofNat : Nat → α
  ofFloat : Float → α
  lt : α → α → Bool
  le : α → α → Bool
  isFinite : α → Bool
  rem : α → α → α
  nearest : α → Nat

namespace Scalar

variable {α : Type} [Scalar α]

def isNumber (x : α) : Bool :=
  le x x

/-- The smaller one, the second if they compare equal as zeros of either sign do; what is not a
number loses. -/
def least (x y : α) : α :=
  if isNumber x then if le y x then y else x else y

def greatest (x y : α) : α :=
  if isNumber x then if le x y then y else x else y

def clamp (x low high : α) : α :=
  if lt x low then low else if lt high x then high else x

def isZero (x : α) : Bool :=
  le x (ofNat 0) && le (ofNat 0) x

end Scalar

namespace Binary64

def toFloat (mantissa : Nat) (exponent : Int) : Float :=
  if mantissa = 0 then 0
  else
    let shift := min (52 - mantissa.log2) (exponent + 1074).toNat
    let mantissa := mantissa * Nat.pow 2 shift
    let exponent := exponent - shift
    if mantissa < Nat.pow 2 52 then Float.ofBits mantissa.toUInt64
    else Float.ofBits ((exponent + 1075).toNat * Nat.pow 2 52 + (mantissa - Nat.pow 2 52)).toUInt64

def rem (x y : Float) : Float :=
  match ofFloat x, ofFloat y with
  | .finite _ m p, .finite _ n q =>
    if n = 0 then 0 / 0
    else
      let least := min p q
      toFloat (m * Nat.pow 2 (p - least).toNat % (n * Nat.pow 2 (q - least).toNat)) least
  | _, _ => 0 / 0

end Binary64

instance : Scalar Float where
  ofNat := Float.ofNat
  ofFloat := id
  lt x y := x < y
  le x y := x ≤ y
  isFinite x := x.isFinite
  rem := Binary64.rem
  nearest x := if Binary64.isNegative x then 0 else Binary64.nearest .upward 1 x

/-- Fractions, and what a double may be besides. -/
inductive Exact
  | nan
  | infinite (negative : Bool)
  | finite (value : Rat)
  deriving DecidableEq

namespace Exact

def lift (f : Rat → Rat → Rat) : Exact → Exact → Exact
  | finite x, finite y => finite (f x y)
  | _, _ => nan

def ofBinary64 : Binary64 → Exact
  | .nan => nan
  | .infinite negative => infinite negative
  | .finite negative mantissa exponent =>
    let q := Binary64.quotient mantissa exponent
    let size : Rat := (q.1 : Rat) / (q.2 : Rat)
    finite (if negative then -size else size)

def lt : Exact → Exact → Bool
  | finite x, finite y => x < y
  | infinite true, finite _ => true
  | infinite true, infinite false => true
  | finite _, infinite false => true
  | _, _ => false

def le : Exact → Exact → Bool
  | finite x, finite y => x ≤ y
  | infinite true, finite _ => true
  | infinite true, infinite _ => true
  | finite _, infinite false => true
  | infinite false, infinite false => true
  | _, _ => false

def rem : Exact → Exact → Exact
  | finite x, finite y => if y = 0 then nan else finite (x - y * (x / y).floor)
  | _, _ => nan

def nearest : Exact → Nat
  | finite x => roundQuotient .upward x.num.toNat x.den
  | _ => 0

instance : Scalar Exact where
  add := lift (· + ·)
  sub := lift (· - ·)
  mul := lift (· * ·)
  div := lift (· / ·)
  ofNat n := finite n
  ofFloat x := ofBinary64 (Binary64.ofFloat x)
  lt := lt
  le := le
  isFinite x := match x with
    | finite _ => true
    | _ => false
  rem := rem
  nearest := nearest

end Exact

end Marquee.Number
