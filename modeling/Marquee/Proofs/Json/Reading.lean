import Mathlib.Tactic.Common
import Marquee.Json.Shape
import Marquee.Json.Printer

namespace Marquee.Json

variable {α β : Type} {r : Reader α} {f : α → Reader β} {P : α → Prop} {cs rest mid : List Char}

lemma bind_of_ok {x : α} (h : r cs = .ok (x, mid)) : (r >>= f) cs = f x mid := by
  change (r cs >>= fun p => f p.1 p.2) = _
  rw [h]
  rfl

lemma map_of_ok (g : α → β) {x : α} (h : r cs = .ok (x, mid)) : (g <$> r) cs = .ok (g x, mid) := by
  rw [map_eq_pure_bind, bind_of_ok h]
  rfl

lemma bind_eq_ok_iff {v : β} :
    (r >>= f) cs = .ok (v, rest) ↔ ∃ x mid, r cs = .ok (x, mid) ∧ f x mid = .ok (v, rest) := by
  constructor
  · intro h
    change (r cs >>= fun p => f p.1 p.2) = _ at h
    cases hr : r cs with
    | error stop =>
      rw [hr] at h
      cases h
    | ok p =>
      rw [hr] at h
      exact ⟨p.1, p.2, rfl, h⟩
  · rintro ⟨x, mid, hr, hf⟩
    rw [bind_of_ok hr, hf]

lemma bind_congr_text {cs' : List Char} (h : r cs = r cs') : (r >>= f) cs = (r >>= f) cs' := by
  change (r cs >>= fun p => f p.1 p.2) = (r cs' >>= fun p => f p.1 p.2)
  rw [h]

def Yields (r : Reader α) (P : α → Prop) : Prop :=
  ∀ ⦃cs v rest⦄, r cs = .ok (v, rest) → P v

namespace Yields

lemma pure {x : α} (h : P x) : Yields (Pure.pure x) P := by
  intro cs v rest hr
  cases hr
  exact h

lemma fail (cause : Cause) : Yields (Json.fail cause) P :=
  nofun

lemma failKind (wanted : String) : Yields (Json.failKind wanted) P :=
  nofun

lemma bind {R : β → Prop} (h : Yields r P) (next : ∀ x, P x → Yields (f x) R) :
    Yields (r >>= f) R := by
  intro cs v rest hr
  obtain ⟨x, mid, hx, hv⟩ := bind_eq_ok_iff.mp hr
  exact next x (h hx) hv

lemma after {R : β → Prop} (next : ∀ x, Yields (f x) R) : Yields (r >>= f) R := by
  intro cs v rest hr
  obtain ⟨x, mid, -, hv⟩ := bind_eq_ok_iff.mp hr
  exact next x hv

lemma map {R : β → Prop} {g : α → β} (h : Yields r P) (imp : ∀ v, P v → R (g v)) :
    Yields (g <$> r) R := by
  rw [map_eq_pure_bind]
  exact h.bind fun v hv => pure (imp v hv)

lemma optional (h : Yields r P) : Yields (Json.optional r) fun o => ∀ x, o = some x → P x := by
  refine after fun c => ?_
  split
  · exact fail _
  · exact after fun _ => after fun _ => pure nofun
  · exact h.map fun v hv x hx => Option.some.inj hx ▸ hv

end Yields

/-- What `r` makes of a text stays the same when `tail` follows the text, of which it then takes
nothing. -/
def Stable (tail : List Char) (r : Reader α) : Prop :=
  ∀ ⦃cs v rest⦄, r cs = .ok (v, rest) → r (cs ++ tail) = .ok (v, rest ++ tail)

namespace Stable

variable {tail : List Char}

lemma pure (x : α) : Stable tail (Pure.pure x : Reader α) := by
  intro cs v rest h
  cases h
  rfl

lemma fail (cause : Cause) : Stable tail (Json.fail cause : Reader α) :=
  nofun

lemma failNext (cause : Cause) : Stable tail (Json.failNext cause : Reader α) :=
  nofun

lemma bind (h : Stable tail r) (next : ∀ x, Stable tail (f x)) : Stable tail (r >>= f) := by
  intro cs v rest hr
  obtain ⟨x, mid, hx, hv⟩ := bind_eq_ok_iff.mp hr
  rw [bind_of_ok (h hx)]
  exact next x hv

end Stable

inductive ValueEnd : List Char → Prop
  | comma (rest : List Char) : ValueEnd (',' :: rest)
  | brace (rest : List Char) : ValueEnd ('}' :: rest)

def Reads (r : Reader α) (text : List Char) (v : α) : Prop :=
  ∀ ⦃tail⦄, ValueEnd tail → r (text ++ tail) = .ok (v, tail)

namespace Reads

variable {text : List Char}

lemma map {v : α} (h : Reads r text v) (g : α → β) :
    Reads (do return g (← r)) text (g v) :=
  fun _ ends => bind_of_ok (h ends)

end Reads

lemma peek_cons {c : Char} (h : isBlank c = false) : peek (c :: cs) = .ok (some c, c :: cs) := by
  unfold peek
  rw [List.dropWhile_cons_of_neg (Bool.eq_false_iff.mp h)]
  rfl

lemma word_append (w rest : List Char) : word w (w ++ rest) = .ok ((), rest) := by
  induction w with
  | nil => rfl
  | cons c w ih =>
    change (if c = c then word w (w ++ rest) else _) = _
    rw [if_pos rfl, ih]

lemma reads_boolean (b : Bool) : Reads boolean (printedBool b) b := by
  intro tail _
  cases b with
  | true =>
    change (word "rue".toList >>= fun _ => pure true) ("rue".toList ++ tail) = _
    rw [bind_of_ok (word_append _ tail)]
    rfl
  | false =>
    change (word "alse".toList >>= fun _ => pure false) ("alse".toList ++ tail) = _
    rw [bind_of_ok (word_append _ tail)]
    rfl

lemma reads_null (r : Reader α) : Reads (optional r) "null".toList none := by
  intro tail _
  change (word "ull".toList >>= fun _ => pure none) ("ull".toList ++ tail) = _
  rw [bind_of_ok (word_append _ tail)]
  rfl

lemma printedOption_eq_null_iff {print : α → List Char} {o : Option α}
    (worded : ∀ x, o = some x → print x ≠ "null".toList) :
    printedOption print o = "null".toList ↔ o = none := by
  cases o with
  | none => exact iff_of_true rfl rfl
  | some x => exact iff_of_false (worded x rfl) nofun

lemma Reads.optional {c : Char} {text : List Char} {v : α} (h : Reads r (c :: text) v)
    (blank : isBlank c = false) (other : c ≠ 'n') : Reads (Json.optional r) (c :: text) (some v) := by
  intro tail ends
  unfold Json.optional
  rw [List.cons_append, bind_of_ok (peek_cons blank)]
  simp only
  exact map_of_ok some (h ends)

end Marquee.Json
