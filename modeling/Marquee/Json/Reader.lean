import Marquee.Json.Fault

/-! Readers of JSON text. They go from left to right and stop at the first fault. -/

namespace Marquee.Json

def byteSize (cs : List Char) : Nat :=
  cs.foldl (fun n c => n + c.utf8Size) 0

/-- The end of a reading: its cause, and the bytes of the text that follow the position of it. -/
structure Halt where
  cause : Cause
  left : Nat

def halt (bytes : Nat) (cause : Cause) (cs : List Char) : Halt :=
  ⟨cause, byteSize cs - bytes⟩

def Halt.fault (text : String) (h : Halt) : Fault :=
  ⟨h.cause, Position.start.advance (text.utf8ByteSize - h.left) text.toList⟩

abbrev Reader (α : Type) := StateT (List Char) (Except Halt) α

variable {α β : Type}

def fail (cause : Cause) : Reader α :=
  fun cs => .error (halt 0 cause cs)

def failNext (cause : Cause) : Reader α :=
  fun cs => .error (halt 1 cause cs)

def isBlank (c : Char) : Bool :=
  c = ' ' || c = '\t' || c = '\n' || c = '\r'

def peek : Reader (Option Char) :=
  fun cs =>
    let rest := cs.dropWhile isBlank
    .ok (rest.head?, rest)

def drop : Reader Unit :=
  fun cs => .ok ((), cs.tail)

def word : List Char → Reader Unit
  | [] => pure ()
  | expected :: more => fun cs =>
    match cs with
    | [] => .error (halt 0 (.unfinished .value) cs)
    | c :: rest =>
      if c = expected then word more rest else .error (halt 1 (.malformed .noWord) cs)

def hexDigit? (c : Char) : Option Nat :=
  if '0' ≤ c ∧ c ≤ '9' then some (c.toNat - '0'.toNat)
  else if 'a' ≤ c ∧ c ≤ 'f' then some (c.toNat - 'a'.toNat + 10)
  else if 'A' ≤ c ∧ c ≤ 'F' then some (c.toNat - 'A'.toNat + 10)
  else none

def hexQuad (cs : List Char) : Except Halt (Nat × List Char) :=
  if byteSize (cs.take 4) < 4 then .error ⟨.unfinished .string, 0⟩
  else
    match cs with
    | a :: b :: c :: d :: rest =>
      match hexDigit? a, hexDigit? b, hexDigit? c, hexDigit? d with
      | some a, some b, some c, some d => .ok (((a * 16 + b) * 16 + c) * 16 + d, rest)
      | _, _, _, _ => .error (halt 4 (.malformed .badEscape) cs)
    | _ => .error (halt 4 (.malformed .badEscape) cs)

theorem hexQuad_shorter {cs rest : List Char} {n : Nat} (h : hexQuad cs = .ok (n, rest)) :
    rest.length < cs.length := by
  unfold hexQuad at h
  split at h
  · cases h
  · split at h
    · split at h
      · cases h
        simp only [List.length_cons]
        omega
      · cases h
    · cases h

def trailingUnit (leading : Nat) : List Char → Except Halt (Char × List Char)
  | [] => .error ⟨.unfinished .string, 0⟩
  | ['\\'] => .error ⟨.unfinished .string, 0⟩
  | '\\' :: 'u' :: rest =>
    match hexQuad rest with
    | .error stop => .error stop
    | .ok (n, rest) =>
      if 0xDC00 ≤ n ∧ n ≤ 0xDFFF then
        .ok (Char.ofNat (0x10000 + (leading - 0xD800) * 0x400 + (n - 0xDC00)), rest)
      else .error (halt 0 (.malformed .halfPair) rest)
  | '\\' :: rest => .error (halt 1 (.malformed .pairCutShort) rest)
  | cs => .error (halt 1 (.malformed .pairCutShort) cs)

theorem trailingUnit_shorter {leading : Nat} {cs rest : List Char} {c : Char}
    (h : trailingUnit leading cs = .ok (c, rest)) : rest.length < cs.length := by
  unfold trailingUnit at h
  split at h
  · cases h
  · cases h
  · split at h
    · cases h
    · rename_i hq
      have hs := hexQuad_shorter hq
      split at h
      · simp only [Except.ok.injEq, Prod.mk.injEq] at h
        obtain ⟨_, rfl⟩ := h
        simp only [List.length_cons]
        omega
      · cases h
  · cases h
  · cases h

def unicodeEscape (cs : List Char) : Except Halt (Char × List Char) :=
  match hexQuad cs with
  | .error stop => .error stop
  | .ok (n, rest) =>
    if 0xDC00 ≤ n ∧ n ≤ 0xDFFF then .error (halt 0 (.malformed .halfPair) rest)
    else if 0xD800 ≤ n ∧ n ≤ 0xDBFF then trailingUnit n rest
    else .ok (Char.ofNat n, rest)

theorem unicodeEscape_shorter {cs rest : List Char} {c : Char}
    (h : unicodeEscape cs = .ok (c, rest)) : rest.length < cs.length := by
  unfold unicodeEscape at h
  split at h
  · cases h
  · rename_i hq
    have hs := hexQuad_shorter hq
    split at h
    · cases h
    · split at h
      · have := trailingUnit_shorter h
        omega
      · simp only [Except.ok.injEq, Prod.mk.injEq] at h
        obtain ⟨_, rfl⟩ := h
        exact hs

def shortEscape? : Char → Option Char
  | '"' => some '"'
  | '\\' => some '\\'
  | '/' => some '/'
  | 'b' => some '\x08'
  | 'f' => some '\x0c'
  | 'n' => some '\n'
  | 'r' => some '\r'
  | 't' => some '\t'
  | _ => none

def escape : List Char → Except Halt (Char × List Char)
  | [] => .error ⟨.unfinished .string, 0⟩
  | c :: rest =>
    if c = 'u' then unicodeEscape rest
    else
      match shortEscape? c with
      | some e => .ok (e, rest)
      | none => .error (halt 1 (.malformed .badEscape) (c :: rest))

theorem escape_shorter {cs rest : List Char} {c : Char} (h : escape cs = .ok (c, rest)) :
    rest.length < cs.length := by
  cases cs with
  | nil => cases h
  | cons d ds =>
    simp only [escape] at h
    split at h
    · have := unicodeEscape_shorter h
      simp only [List.length_cons]
      omega
    · split at h
      · cases h
        simp
      · cases h

def stringBody (cs : List Char) : Except Halt (List Char × List Char) :=
  match cs with
  | [] => .error ⟨.unfinished .string, 0⟩
  | c :: rest =>
    if c = '"' then .ok ([], rest)
    else if c = '\\' then
      match h : escape rest with
      | .error stop => .error stop
      | .ok (e, rest') =>
        have := escape_shorter h
        match stringBody rest' with
        | .error stop => .error stop
        | .ok (body, rest) => .ok (e :: body, rest)
    else if c.toNat < 0x20 then .error (halt 1 (.malformed .controlCharacter) cs)
    else
      match stringBody rest with
      | .error stop => .error stop
      | .ok (body, rest) => .ok (c :: body, rest)
termination_by cs.length

def stringTail : Reader String :=
  fun cs =>
    match stringBody cs with
    | .error stop => .error stop
    | .ok (body, rest) => .ok (String.ofList body, rest)

def colon : Reader Unit := do
  match ← peek with
  | some ':' => drop
  | some _ => failNext (.malformed .noColon)
  | none => fail (.unfinished .object)

def Reader.all (r : Reader α) (text : String) : Except Fault α :=
  match r text.toList with
  | .error stop => .error (stop.fault text)
  | .ok (value, rest) =>
    match rest.dropWhile isBlank with
    | [] => .ok value
    | more => .error ((halt 1 (.malformed .trailingText) more).fault text)

end Marquee.Json
