import Marquee.Number.Text
import Marquee.Text.Quoted

namespace Marquee.Json

inductive Found
  | integer (value : Int)
  | floating (value : Float)
  | boolean (value : Bool)
  | null
  | text (value : String)
  | sequence
  | map

def Found.describe : Found → String
  | integer value => "integer `" ++ toString value ++ "`"
  | floating value => "floating point `" ++ Number.jsonText value ++ "`"
  | boolean value => "boolean `" ++ (if value then "true" else "false") ++ "`"
  | null => "null"
  | text value => "string " ++ Text.quoted value
  | sequence => "sequence"
  | map => "map"

inductive ShapeFault
  | wrongType (found : Found) (wanted : String)
  | wrongValue (found : Found) (wanted : String)
  | wrongLength (length : Nat) (wanted : String)
  | unknownVariant (name : String) (known : List String)
  | missingField (name : String)
  | duplicateField (name : String)

def ShapeFault.message : ShapeFault → String
  | wrongType found wanted => "invalid type: " ++ found.describe ++ ", expected " ++ wanted
  | wrongValue found wanted => "invalid value: " ++ found.describe ++ ", expected " ++ wanted
  | wrongLength length wanted => "invalid length " ++ toString length ++ ", expected " ++ wanted
  | unknownVariant name known =>
    "unknown variant `" ++ name ++ "`, expected one of " ++
      String.intercalate ", " (known.map fun k => "`" ++ k ++ "`")
  | missingField name => "missing field `" ++ name ++ "`"
  | duplicateField name => "duplicate field `" ++ name ++ "`"

inductive Unfinished
  | value
  | string
  | list
  | object

def Unfinished.message : Unfinished → String
  | value => "EOF while parsing a value"
  | string => "EOF while parsing a string"
  | list => "EOF while parsing a list"
  | object => "EOF while parsing an object"

inductive Malformed
  | noColon
  | noListEnd
  | noObjectEnd
  | noWord
  | noValue
  | badEscape
  | badNumber
  | hugeNumber
  | controlCharacter
  | keyNotText
  | halfPair
  | pairCutShort
  | trailingComma
  | trailingText

def Malformed.message : Malformed → String
  | noColon => "expected `:`"
  | noListEnd => "expected `,` or `]`"
  | noObjectEnd => "expected `,` or `\x7d`"
  | noWord => "expected ident"
  | noValue => "expected value"
  | badEscape => "invalid escape"
  | badNumber => "invalid number"
  | hugeNumber => "number out of range"
  | controlCharacter => "control character (\\u0000-\\u001F) found while parsing a string"
  | keyNotText => "key must be a string"
  | halfPair => "lone leading surrogate in hex escape"
  | pairCutShort => "unexpected end of hex escape"
  | trailingComma => "trailing comma"
  | trailingText => "trailing characters"

inductive Cause
  | unfinished (part : Unfinished)
  | malformed (flaw : Malformed)
  | wrongShape (fault : ShapeFault)

def Cause.message : Cause → String
  | unfinished part => part.message
  | malformed flaw => flaw.message
  | wrongShape fault => fault.message

structure Position where
  line : Nat
  column : Nat

namespace Position

def start : Position := ⟨1, 0⟩

def past (p : Position) (c : Char) : Position :=
  if c = '\n' then ⟨p.line + 1, 0⟩ else { p with column := p.column + c.utf8Size }

def advance (p : Position) : Nat → List Char → Position
  | _, [] => p
  | bytes, c :: cs =>
    if bytes < c.utf8Size then { p with column := p.column + bytes }
    else (p.past c).advance (bytes - c.utf8Size) cs

end Position

structure Fault where
  cause : Cause
  position : Position

def Fault.message (f : Fault) : String :=
  f.cause.message ++ " at line " ++ toString f.position.line ++
    " column " ++ toString f.position.column

end Marquee.Json
