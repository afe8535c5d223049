import Marquee.Proofs.Json.Reading

namespace Marquee.Json

variable {cs rest left body : List Char} {c e : Char}

lemma stringBody_escaped (first : escape cs = .ok (e, rest)) (h : stringBody rest = .ok (body, left)) :
    stringBody ('\\' :: cs) = .ok (e :: body, left) := by
  rw [stringBody, if_neg (by decide), if_pos rfl]
  split
  next failed =>
    rw [first] at failed
    cases failed
  next found =>
    rw [first] at found
    cases found
    rw [h]

lemma stringBody_plain (quote : c ≠ '"') (slash : c ≠ '\\') (printable : ¬ c.toNat < 0x20)
    (h : stringBody rest = .ok (body, left)) : stringBody (c :: rest) = .ok (c :: body, left) := by
  rw [stringBody, if_neg quote, if_neg slash, if_neg printable, h]

lemma hexText_control {n : Nat} (h : n < 0x20) :
    ∃ high low, hexText n = ['0', '0', high, low] ∧ byteSize ['0', '0', high, low] = 4 ∧
      hexDigit? high = some (n / 16) ∧ hexDigit? low = some (n % 16) := by
  have table : ∀ n < 0x20, hexText n = ['0', '0', Nat.digitChar (n / 16), Nat.digitChar (n % 16)] ∧
      byteSize ['0', '0', Nat.digitChar (n / 16), Nat.digitChar (n % 16)] = 4 ∧
      hexDigit? (Nat.digitChar (n / 16)) = some (n / 16) ∧
      hexDigit? (Nat.digitChar (n % 16)) = some (n % 16) := by
    decide
  exact ⟨_, _, table n h⟩

lemma hexQuad_hexText {n : Nat} (h : n < 0x20) (rest : List Char) :
    hexQuad (hexText n ++ rest) = .ok (n, rest) := by
  obtain ⟨high, low, text, size, tens, ones⟩ := hexText_control h
  have zero : hexDigit? '0' = some 0 := rfl
  have value : ((0 * 16 + 0) * 16 + n / 16) * 16 + n % 16 = n := by omega
  have whole : ¬ byteSize ((['0', '0', high, low] ++ rest).take 4) < 4 :=
    Nat.not_lt.mpr (Nat.le_of_eq size.symm)
  rw [text]
  unfold hexQuad
  rw [if_neg whole]
  simp only [List.cons_append, List.nil_append, zero, tens, ones, value]

lemma escape_control {n : Nat} (h : n < 0x20) (rest : List Char) :
    escape ('u' :: (hexText n ++ rest)) = .ok (Char.ofNat n, rest) := by
  change unicodeEscape (hexText n ++ rest) = _
  unfold unicodeEscape
  rw [hexQuad_hexText h]
  dsimp only
  rw [if_neg (by omega), if_neg (by omega)]

lemma stringBody_printedChar (c : Char) (h : stringBody rest = .ok (body, left)) :
    stringBody (printedChar c ++ rest) = .ok (c :: body, left) := by
  have short {e : Char} (name : Char) (known : escape (name :: rest) = .ok (e, rest)) :
      stringBody ('\\' :: name :: rest) = .ok (e :: body, left) :=
    stringBody_escaped known h
  unfold printedChar
  split_ifs with quote slash backspace feed line back tab control
  · exact quote ▸ short '"' rfl
  · exact slash ▸ short '\\' rfl
  · exact backspace ▸ short 'b' rfl
  · exact feed ▸ short 'f' rfl
  · exact line ▸ short 'n' rfl
  · exact back ▸ short 'r' rfl
  · exact tab ▸ short 't' rfl
  · have escaped := escape_control control rest
    rw [Char.ofNat_toNat] at escaped
    exact stringBody_escaped escaped h
  · exact stringBody_plain quote slash control h

lemma stringBody_printed (cs rest : List Char) :
    stringBody (cs.flatMap printedChar ++ '"' :: rest) = .ok (cs, rest) := by
  induction cs with
  | nil =>
    change stringBody ('"' :: rest) = _
    rw [stringBody, if_pos rfl]
  | cons c cs ih =>
    rw [List.flatMap_cons, List.append_assoc]
    exact stringBody_printedChar c ih

lemma stringTail_printed (s : String) (rest : List Char) :
    stringTail (s.toList.flatMap printedChar ++ '"' :: rest) = .ok (s, rest) := by
  unfold stringTail
  rw [stringBody_printed]
  exact congrArg (fun s => Except.ok (s, rest)) String.ofList_toList

lemma printedString_append (s : String) (rest : List Char) :
    printedString s ++ rest = '"' :: (s.toList.flatMap printedChar ++ '"' :: rest) := by
  simp [printedString]

lemma printedString_ne_null (s : String) : printedString s ≠ "null".toList :=
  nofun

lemma objectKey_printed (s : String) (rest : List Char) :
    objectKey (printedString s ++ rest) = .ok (s, rest) := by
  rw [printedString_append]
  exact stringTail_printed s rest

lemma reads_string (s : String) : Reads string (printedString s) s := by
  intro tail _
  rw [printedString_append]
  exact stringTail_printed s tail

lemma reads_optional_string (s : Option String) :
    Reads (optional string) (printedOption printedString s) s := by
  cases s with
  | none => exact reads_null string
  | some s => exact (reads_string s).optional rfl (by decide)

lemma reads_variant {α : Type} {known : List (String × α)} {name : String} {v : α}
    (h : known.lookup name = some v) : Reads (variant known) (printedString name) v := by
  intro tail _
  have found : variantNamed known name = pure v := by
    unfold variantNamed
    rw [h]
  rw [printedString_append]
  change (stringTail >>= variantNamed known) (name.toList.flatMap printedChar ++ '"' :: tail) = _
  rw [bind_of_ok (stringTail_printed name tail), found]
  rfl

end Marquee.Json
