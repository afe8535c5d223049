import Marquee.Time

namespace Marquee.Span

def padded (width n : Nat) : String :=
  let digits := toString n
  String.ofList (List.replicate (width - digits.length) '0') ++ digits

def fractionText (places n : Nat) : String :=
  let digits := ((padded places n).toList.reverse.dropWhile (· = '0')).reverse
  if digits.isEmpty then "" else "." ++ String.ofList digits

def text (span : Span) : String :=
  if perSecond ≤ span then
    toString (span / perSecond) ++ fractionText 9 (span % perSecond) ++ "s"
  else if 1000000 ≤ span then
    toString (span / 1000000) ++ fractionText 6 (span % 1000000) ++ "ms"
  else if 1000 ≤ span then
    toString (span / 1000) ++ fractionText 3 (span % 1000) ++ "µs"
  else toString span ++ "ns"

end Marquee.Span
