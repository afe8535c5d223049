import Marquee.Json.Reader

namespace Marquee.Json

inductive Numeral
  | natural (n : Nat)
  | negative (n : Nat)
  | floating (x : Float)

def Numeral.found : Numeral → Found
  | natural n => .integer n
  | negative n => .integer (-n)
  | floating x => .floating x

def Numeral.toFloat : Numeral → Float
  | natural n => n.toFloat
  | negative n => -n.toFloat
  | floating x => x

namespace Numeral

def isDigit (c : Char) : Bool :=
  '0' ≤ c && c ≤ '9'

def digitValue (c : Char) : Nat :=
  c.toNat - '0'.toNat

def greatestWord : Nat := Nat.pow 2 64 - 1

structure Significand where
  value : Nat
  power : Int
  full : Bool

def Significand.whole (s : Significand) (digit : Nat) : Significand :=
  if s.full ∨ greatestWord < s.value * 10 + digit then { s with power := s.power + 1, full := true }
  else { s with value := s.value * 10 + digit }

def Significand.fraction (s : Significand) (digit : Nat) : Significand :=
  if s.full ∨ greatestWord < s.value * 10 + digit then { s with full := true }
  else { s with value := s.value * 10 + digit, power := s.power - 1 }

def Significand.ofWhole (ds : List Char) : Significand :=
  ds.foldl (fun s c => s.whole (digitValue c)) { value := 0, power := 0, full := false }

def Significand.extend (s : Significand) (ds : List Char) : Significand :=
  ds.foldl (fun s c => s.fraction (digitValue c)) { s with full := false }

def tenPow (k : Nat) : Float :=
  Float.ofScientific 1 false k

def scaledDown (x : Float) (k : Nat) : Float :=
  if k ≤ 308 then x / tenPow k
  else if x == 0 then x
  else scaledDown (x / tenPow 308) (k - 308)
termination_by k

def scaled? (value : Nat) (power : Int) : Option Float :=
  let x := value.toFloat
  if power < 0 then some (scaledDown x power.natAbs)
  else if power ≤ 308 then
    let y := x * tenPow power.toNat
    if y.isInf then none else some y
  else if x == 0 then some x
  else none

def signed (negative : Bool) (x : Float) : Float :=
  if negative then -x else x

def ofParts (negative : Bool) (value : Nat) (power : Int) : Reader Numeral :=
  match scaled? value power with
  | some x => pure (.floating (signed negative x))
  | none => fail (.malformed .hugeNumber)

def digits : Reader (List Char) :=
  fun cs => .ok (cs.takeWhile isDigit, cs.dropWhile isDigit)

def next : Reader (Option Char) :=
  fun cs => .ok (cs.head?, cs)

/-- A whole number, if its size and sign allow it; there is no whole number for `-0`. -/
def ofWhole (negative : Bool) (n : Nat) : Numeral :=
  if negative then
    if n = 0 ∨ Nat.pow 2 63 < n then .floating (-n.toFloat) else .negative n
  else .natural n

def exponentSign : Reader Bool := do
  match ← next with
  | some '+' => do
    drop
    pure false
  | some '-' => do
    drop
    pure true
  | _ => pure false

def pastGreatest (n : Nat) : List Char → Option (List Char)
  | [] => none
  | c :: cs =>
    if isDigit c then
      let n := n * 10 + digitValue c
      if n < Nat.pow 2 31 then pastGreatest n cs else some cs
    else none

def refuseHuge : Reader Unit :=
  fun cs =>
    match pastGreatest 0 cs with
    | some rest => .error (halt 0 (.malformed .hugeNumber) rest)
    | none => .ok ((), cs)

def exponent (zero : Bool) : Reader (Option Int) := do
  match ← next with
  | some 'e' | some 'E' =>
    drop
    let negative ← exponentSign
    match ← next with
    | none => fail (.unfinished .value)
    | some c =>
      if isDigit c then
        unless zero || negative do
          refuseHuge
        let size := (← digits).foldl (fun n c => n * 10 + digitValue c) 0
        pure (some (if negative then -(size : Int) else size))
      else failNext (.malformed .badNumber)
  | _ => pure none

def fraction : Reader (Option (List Char)) := do
  match ← next with
  | some '.' =>
    drop
    let ds ← digits
    if ds.isEmpty then
      match ← next with
      | none => fail (.unfinished .value)
      | some _ => failNext (.malformed .badNumber)
    else pure (some ds)
  | _ => pure none

def wholeDigits : Reader (List Char) := do
  match ← next with
  | none => fail (.unfinished .value)
  | some '0' =>
    drop
    if (← next).any isDigit then failNext (.malformed .badNumber) else pure ['0']
  | some c => if isDigit c then digits else failNext (.malformed .badNumber)

def unsigned (negative : Bool) : Reader Numeral := do
  let whole := Significand.ofWhole (← wholeDigits)
  let behind ← fraction
  let s := whole.extend (behind.getD [])
  match ← exponent (s.value = 0) with
  | some e => ofParts negative s.value (s.power + e)
  | none =>
    if behind.isSome ∨ whole.full then ofParts negative s.value s.power
    else pure (ofWhole negative whole.value)

end Numeral

def numeral : Reader Numeral := do
  match ← Numeral.next with
  | some '-' =>
    drop
    Numeral.unsigned true
  | _ => Numeral.unsigned false

end Marquee.Json
