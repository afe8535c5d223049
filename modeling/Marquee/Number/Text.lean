import Marquee.Number.Shortest

namespace Marquee.Number

structure FloatStyle where
  positional : Int → Bool
  keepsPoint : Bool
  tie : Tie
  nan : String
  positiveInfinity : String
  negativeInfinity : String

def zeros (count : Nat) : String :=
  String.ofList (List.replicate count '0')

def positionalText (keepsPoint : Bool) (digits : List Char) (leading : Int) : String :=
  if leading < 0 then "0." ++ zeros (-leading - 1).toNat ++ String.ofList digits
  else
    let whole := leading.toNat + 1
    if digits.length ≤ whole then
      String.ofList digits ++ zeros (whole - digits.length) ++ (if keepsPoint then ".0" else "")
    else String.ofList (digits.take whole) ++ "." ++ String.ofList (digits.drop whole)

def scientificText (digits : List Char) (leading : Int) : String :=
  let fraction := if digits.length ≤ 1 then "" else "." ++ String.ofList (digits.drop 1)
  let sign := if leading < 0 then "-" else "+"
  String.ofList (digits.take 1) ++ fraction ++ "e" ++ sign ++ toString leading.natAbs

def FloatStyle.sizeText (style : FloatStyle) (mantissa : Nat) (exponent : Int) : String :=
  if mantissa = 0 then if style.keepsPoint then "0.0" else "0"
  else
    let d := shortest style.tie mantissa exponent
    let digits := Nat.toDigits 10 d.significand
    if style.positional d.leading then positionalText style.keepsPoint digits d.leading
    else scientificText digits d.leading

def FloatStyle.text (style : FloatStyle) (x : Float) : String :=
  match Binary64.ofFloat x with
  | .nan => style.nan
  | .infinite false => style.positiveInfinity
  | .infinite true => style.negativeInfinity
  | .finite negative mantissa exponent =>
    (if negative then "-" else "") ++ style.sizeText mantissa exponent

def plainStyle : FloatStyle where
  positional := fun _ => true
  keepsPoint := false
  tie := .upward
  nan := "NaN"
  positiveInfinity := "inf"
  negativeInfinity := "-inf"

/-- JSON text changes to an exponent below `1e-5` and from `1e16` on; it has no word for what is not
finite. -/
def jsonStyle : FloatStyle where
  positional := fun leading => -5 ≤ leading && leading ≤ 15
  keepsPoint := true
  tie := .toEven
  nan := "null"
  positiveInfinity := "null"
  negativeInfinity := "null"

def plainText (x : Float) : String :=
  plainStyle.text x

def jsonText (x : Float) : String :=
  jsonStyle.text x

def tenthsText (x : Float) : String :=
  match Binary64.ofFloat x with
  | .finite negative _ _ =>
    let tenths := Binary64.nearest .toEven 10 x
    (if negative then "-" else "") ++ toString (tenths / 10) ++ "." ++ toString (tenths % 10)
  | _ => plainText x

end Marquee.Number
