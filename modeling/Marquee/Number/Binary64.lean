import Marquee.Number.Rounding

namespace Marquee.Number

inductive Binary64
  | nan
  | infinite (negative : Bool)
  | finite (negative : Bool) (mantissa : Nat) (exponent : Int)
  deriving DecidableEq, Repr

namespace Binary64

def ofBits (bits : Nat) : Binary64 :=
  let negative : Bool := bits / Nat.pow 2 63 % 2 = 1
  let field : Nat := bits / Nat.pow 2 52 % Nat.pow 2 11
  let fraction := bits % Nat.pow 2 52
  if field = 2047 then
    if fraction = 0 then .infinite negative else .nan
  else if field = 0 then .finite negative fraction (-1074)
  else .finite negative (Nat.pow 2 52 + fraction) ((field : Int) - 1075)

def ofFloat (x : Float) : Binary64 :=
  ofBits x.toBits.toNat

def quotient (mantissa : Nat) (exponent : Int) : Nat × Nat :=
  (mantissa * Nat.pow 2 exponent.toNat, Nat.pow 2 (-exponent).toNat)

theorem quotient_den_pos (mantissa : Nat) (exponent : Int) : 0 < (quotient mantissa exponent).2 :=
  Nat.two_pow_pos _

def nearest (tie : Tie) (scale : Nat) (x : Float) : Nat :=
  match ofFloat x with
  | .finite _ mantissa exponent =>
    let q := quotient mantissa exponent
    roundQuotient tie (q.1 * scale) q.2
  | _ => 0

def isNegative (x : Float) : Bool :=
  match ofFloat x with
  | .nan => false
  | .infinite negative => negative
  | .finite negative _ _ => negative

end Binary64

end Marquee.Number
