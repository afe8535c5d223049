import Marquee.Json.Reader

namespace Marquee.Json.Skip

inductive Bracket
  | array
  | object
  deriving DecidableEq, Repr

def Bracket.closer : Bracket → Char
  | array => ']'
  | object => '}'

def Bracket.unfinished : Bracket → Unfinished
  | array => .list
  | object => .object

def Bracket.noEnd : Bracket → Malformed
  | array => .noListEnd
  | object => .noObjectEnd

inductive Place
  | value
  | first
  | next
  deriving DecidableEq, Repr

def isDigit (c : Char) : Bool :=
  '0' ≤ c && c ≤ '9'

def digits (cs : List Char) : List Char :=
  cs.dropWhile isDigit

def someDigits : List Char → Except Halt (List Char)
  | c :: rest =>
    if isDigit c then .ok (digits rest) else .error (halt 1 (.malformed .badNumber) (c :: rest))
  | [] => .error ⟨.malformed .badNumber, 0⟩

def exponent : List Char → Except Halt (List Char)
  | c :: rest =>
    if c = 'e' ∨ c = 'E' then
      match rest with
      | s :: rest' => if s = '+' ∨ s = '-' then someDigits rest' else someDigits rest
      | [] => .error ⟨.malformed .badNumber, 0⟩
    else .ok (c :: rest)
  | [] => .ok []

def fraction : List Char → Except Halt (List Char)
  | c :: rest =>
    if c = '.' then (someDigits rest).bind exponent else exponent (c :: rest)
  | [] => .ok []

def number : List Char → Except Halt (List Char)
  | '0' :: rest =>
    match rest with
    | c :: _ =>
      if isDigit c then .error (halt 1 (.malformed .badNumber) rest) else fraction rest
    | [] => .ok []
  | cs => (someDigits cs).bind fraction

def string (cs : List Char) : Except Halt (List Char) :=
  match cs with
  | [] => .error ⟨.unfinished .string, 0⟩
  | c :: rest =>
    if c = '"' then .ok rest
    else if c = '\\' then
      match rest with
      | [] => .error ⟨.unfinished .string, 0⟩
      | e :: rest =>
        if e = 'u' then
          match h : hexQuad rest with
          | .error stop => .error stop
          | .ok (_, rest') =>
            have := hexQuad_shorter h
            string rest'
        else if (shortEscape? e).isSome then string rest
        else .error (halt 1 (.malformed .badEscape) (e :: rest))
    else if c.toNat < 0x20 then .error (halt 0 (.malformed .controlCharacter) cs)
    else string rest
termination_by cs.length

def key : List Char → Except Halt (List Char)
  | [] => .error ⟨.unfinished .object, 0⟩
  | c :: rest =>
    if c = '"' then do
      let rest ← string rest
      match rest.dropWhile isBlank with
      | [] => .error ⟨.unfinished .object, 0⟩
      | d :: rest =>
        if d = ':' then .ok rest else .error (halt 1 (.malformed .noColon) (d :: rest))
    else .error (halt 1 (.malformed .keyNotText) (c :: rest))

def wordTail (letters : String) (cs : List Char) : Except Halt (List Char) :=
  match word letters.toList cs with
  | .ok (_, rest) => .ok rest
  | .error stop => .error stop

abbrev Step := List Bracket × Place × List Char

def valueStep (stack : List Bracket) (c : Char) (rest : List Char) : Except Halt Step :=
  let after (r : Except Halt (List Char)) : Except Halt Step :=
    r.map fun rest => (stack, .next, rest)
  if c = 'n' then after (wordTail "ull" rest)
  else if c = 't' then after (wordTail "rue" rest)
  else if c = 'f' then after (wordTail "alse" rest)
  else if c = '-' then after (number rest)
  else if isDigit c then after (number (c :: rest))
  else if c = '"' then after (string rest)
  else if c = '[' then .ok (.array :: stack, .first, rest)
  else if c = '{' then .ok (.object :: stack, .first, rest)
  else .error (halt 1 (.malformed .noValue) (c :: rest))

def itemStep (bracket : Bracket) (stack : List Bracket) (cs : List Char) : Except Halt Step :=
  match bracket with
  | .array => .ok (.array :: stack, .value, cs)
  | .object => (key (cs.dropWhile isBlank)).map fun rest => (.object :: stack, .value, rest)

def step : Step → Except Halt Step
  | (stack, place, cs) =>
    match place, stack, cs.dropWhile isBlank with
    | .value, _, c :: rest => valueStep stack c rest
    | .first, bracket :: outer, c :: rest =>
      if c = bracket.closer then .ok (outer, .next, rest)
      else itemStep bracket outer (c :: rest)
    | .next, bracket :: outer, c :: rest =>
      if c = bracket.closer then .ok (outer, .next, rest)
      else if c = ',' then itemStep bracket outer rest
      else .error (halt 1 (.malformed bracket.noEnd) (c :: rest))
    | .value, _, [] => .error ⟨.unfinished .value, 0⟩
    | _, bracket :: _, [] => .error ⟨.unfinished bracket.unfinished, 0⟩
    | _, [], _ => .ok (stack, .next, cs)

/-- Every second step at least takes a character. -/
def run : Nat → Step → Except Halt (List Char)
  | _, ([], .next, cs) => .ok cs
  | 0, (_, _, cs) => .error (halt 0 (.unfinished .value) cs)
  | fuel + 1, s => (step s).bind (run fuel)

def value : Reader Unit :=
  fun cs => (run (2 * cs.length + 2) ([], .value, cs)).map fun rest => ((), rest)

end Marquee.Json.Skip
