import Marquee.Json.Number
import Marquee.Json.Skip

/-! Readers of values of a wanted shape: scalars, options, variants, records and maps. -/

namespace Marquee.Json

variable {α δ : Type}

/-- The halt at a value that is not `wanted`: after it, or at its bracket. The start of the value
itself may be at fault first. -/
def wrongKind (wanted : String) (cs : List Char) : Halt :=
  let wrong (found : Found) (rest : List Char) : Halt :=
    halt 0 (.wrongShape (.wrongType found wanted)) rest
  let after {β : Type} (r : Reader β) (cs : List Char) (found : β → Found) : Halt :=
    match r cs with
    | .ok (x, rest) => wrong (found x) rest
    | .error stop => stop
  match cs with
  | [] => ⟨.unfinished .value, 0⟩
  | c :: rest =>
    if c = 'n' then after (word "ull".toList) rest fun _ => .null
    else if c = 't' then after (word "rue".toList) rest fun _ => .boolean true
    else if c = 'f' then after (word "alse".toList) rest fun _ => .boolean false
    else if c = '-' || Numeral.isDigit c then after numeral cs Numeral.found
    else if c = '"' then after stringTail rest Found.text
    else if c = '[' then wrong .sequence cs
    else if c = '{' then wrong .map cs
    else halt 1 (.malformed .noValue) cs

def failKind (wanted : String) : Reader α :=
  fun cs => .error (wrongKind wanted cs)

def numeralOf (wanted : String) (use : Numeral → Except ShapeFault α) : Reader α := do
  match ← peek with
  | none => fail (.unfinished .value)
  | some c =>
    if c = '-' || Numeral.isDigit c then
      match use (← numeral) with
      | .ok value => pure value
      | .error cause => fail (.wrongShape cause)
    else failKind wanted

def float : Reader Float :=
  numeralOf "f64" fun n => .ok n.toFloat

def natural (wanted : String) (bound : Nat) : Reader Nat :=
  numeralOf wanted fun n =>
    match n with
    | .natural k => if k < bound then .ok k else .error (.wrongValue n.found wanted)
    | .negative _ => .error (.wrongValue n.found wanted)
    | .floating _ => .error (.wrongType n.found wanted)

def boolean : Reader Bool := do
  match ← peek with
  | none => fail (.unfinished .value)
  | some 't' => do
    drop
    word "rue".toList
    pure true
  | some 'f' => do
    drop
    word "alse".toList
    pure false
  | some _ => failKind "a boolean"

def string : Reader String := do
  match ← peek with
  | none => fail (.unfinished .value)
  | some '"' => do
    drop
    stringTail
  | some _ => failKind "a string"

def optional (r : Reader α) : Reader (Option α) := do
  match ← peek with
  | none => fail (.unfinished .value)
  | some 'n' => do
    drop
    word "ull".toList
    pure none
  | some _ => some <$> r

def unit : Reader Unit := do
  match ← peek with
  | none => fail (.unfinished .value)
  | some 'n' => do
    drop
    word "ull".toList
  | some _ => failKind "unit"

def variantNamed (known : List (String × α)) (name : String) : Reader α :=
  match known.lookup name with
  | some value => pure value
  | none => fail (.wrongShape (.unknownVariant name (known.map Prod.fst)))

def objectKey : Reader String := do
  match ← peek with
  | none => fail (.unfinished .value)
  | some '"' => do
    drop
    stringTail
  | some _ => failNext (.malformed .keyNotText)

def variant (known : List (String × α)) : Reader α := do
  match ← peek with
  | none => fail (.unfinished .value)
  | some '"' => do
    drop
    variantNamed known (← stringTail)
  | some '{' => do
    drop
    let value ← variantNamed known (← objectKey)
    colon
    unit
    match ← peek with
    | some '}' => drop
    | some _ => fail (.malformed .noValue)
    | none => fail (.unfinished .object)
    pure value
  | some _ => failNext (.malformed .noValue)

def nextKey (first : Bool) : Reader (Option String) := do
  match ← peek with
  | none => fail (.unfinished .object)
  | some '}' => do
    drop
    pure none
  | some c =>
    if first then some <$> objectKey
    else if c = ',' then do
      drop
      if (← peek) = some '}' then failNext (.malformed .trailingComma)
      some <$> objectKey
    else failNext (.malformed .noObjectEnd)

/-- The entries of an object whose brace has been read. Each takes characters, so that there are at
most `fuel` of them. -/
def entries (entry : String → δ → Reader δ) : Nat → Bool → δ → Reader δ
  | 0, _, _ => fail (.unfinished .object)
  | fuel + 1, first, d => do
    match ← nextKey first with
    | none => pure d
    | some key =>
      let d ← entry key d
      entries entry fuel false d

def objectTail (entry : String → δ → Reader δ) (d : δ) : Reader δ :=
  fun cs => entries entry (cs.length + 1) true d cs

structure RecordField (δ : Type) where
  name : String
  given : δ → Bool
  read : δ → Reader δ

structure RecordShape (δ α : Type) where
  name : String
  fields : List (RecordField δ)
  empty : δ
  required : Nat
  finish : δ → Except ShapeFault α

namespace RecordShape

variable (shape : RecordShape δ α)

def wanted : String :=
  "struct " ++ shape.name

def failRecord {β : Type} (closer : Char) (fault : ShapeFault) : Reader β := do
  if (← peek) = some closer then
    drop
  fail (.wrongShape fault)

def entry (key : String) (d : δ) : Reader δ :=
  match shape.fields.find? fun f => f.name = key with
  | some f =>
    if f.given d then failRecord '}' (.duplicateField key)
    else do
      colon
      f.read d
  | none => do
    colon
    Skip.value
    pure d

def hasElement (first : Bool) : Reader Bool := do
  match ← peek with
  | none => fail (.unfinished .list)
  | some ']' => pure false
  | some c =>
    if first then pure true
    else if c = ',' then do
      drop
      match ← peek with
      | none => fail (.unfinished .value)
      | some ']' => failNext (.malformed .trailingComma)
      | some _ => pure true
    else failNext (.malformed .noListEnd)

def elements (index : Nat) (d : δ) : List (RecordField δ) → Reader δ
  | [] => pure d
  | f :: fs => do
    if ← hasElement (index = 0) then
      let d ← f.read d
      elements (index + 1) d fs
    else if index < shape.required then
      failRecord ']' (.wrongLength index
        (shape.wanted ++ " with " ++ toString shape.fields.length ++ " elements"))
    else pure d

def complete (d : δ) : Reader α :=
  match shape.finish d with
  | .ok value => pure value
  | .error cause => fail (.wrongShape cause)

def arrayEnd : Reader Unit := do
  match ← peek with
  | none => fail (.unfinished .list)
  | some ']' => drop
  | some ',' => do
    drop
    if (← peek) = some ']' then failNext (.malformed .trailingComma)
    failNext (.malformed .trailingText)
  | some _ => failNext (.malformed .trailingText)

def read : Reader α := do
  match ← peek with
  | none => fail (.unfinished .value)
  | some '{' => do
    drop
    let d ← objectTail shape.entry shape.empty
    shape.complete d
  | some '[' => do
    drop
    let d ← shape.elements 0 shape.empty shape.fields
    arrayEnd
    shape.complete d
  | some _ => failKind shape.wanted

end RecordShape

def map (r : Reader α) (insert : δ → String → α → δ) (d : δ) : Reader δ := do
  match ← peek with
  | none => fail (.unfinished .value)
  | some '{' => do
    drop
    objectTail (fun key d => do
      colon
      let value ← r
      pure (insert d key value)) d
  | some _ => failKind "a map"

end Marquee.Json
