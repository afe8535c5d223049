import Marquee.Number.Text

namespace Marquee.Json

def hexText (n : Nat) : List Char :=
  let digits := Nat.toDigits 16 n
  List.replicate (4 - digits.length) '0' ++ digits

def printedChar (c : Char) : List Char :=
  if c = '"' then ['\\', '"']
  else if c = '\\' then ['\\', '\\']
  else if c = '\x08' then ['\\', 'b']
  else if c = '\x0c' then ['\\', 'f']
  else if c = '\n' then ['\\', 'n']
  else if c = '\r' then ['\\', 'r']
  else if c = '\t' then ['\\', 't']
  else if c.toNat < 0x20 then '\\' :: 'u' :: hexText c.toNat
  else [c]

def printedString (s : String) : List Char :=
  '"' :: s.toList.flatMap printedChar ++ ['"']

def printedFloat (x : Float) : List Char :=
  (Number.jsonText x).toList

def printedBool (b : Bool) : List Char :=
  if b then "true".toList else "false".toList

def printedOption {α : Type} (print : α → List Char) : Option α → List Char
  | some x => print x
  | none => "null".toList

abbrev Member := String × List Char

def printedMember (m : Member) : List Char :=
  printedString m.1 ++ ':' :: m.2

def printedMembers : List Member → List Char
  | [] => []
  | [m] => printedMember m
  | m :: ms => printedMember m ++ ',' :: printedMembers ms

def printedObject (members : List Member) : List Char :=
  '{' :: printedMembers members ++ ['}']

end Marquee.Json
