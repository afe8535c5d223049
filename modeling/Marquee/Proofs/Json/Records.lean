import Marquee.Proofs.Json.Strings

namespace Marquee.Json

variable {α δ : Type} {entry : String → δ → Reader δ} {d d' d₁ d₂ : δ} {ms ms₁ ms₂ : List Member}

inductive Fills (entry : String → δ → Reader δ) : δ → List Member → δ → Prop
  | nil (d : δ) : Fills entry d [] d
  | cons {d d₁ d₂ : δ} {m : Member} {ms : List Member} (first : Reads (entry m.1 d) (':' :: m.2) d₁)
      (rest : Fills entry d₁ ms d₂) : Fills entry d (m :: ms) d₂

namespace Fills

lemma single {key : String} {text : List Char} (h : Reads (entry key d) (':' :: text) d') :
    Fills entry d [(key, text)] d' :=
  cons h (nil d')

lemma append (h₁ : Fills entry d ms₁ d₁) (h₂ : Fills entry d₁ ms₂ d₂) :
    Fills entry d (ms₁ ++ ms₂) d₂ := by
  induction h₁ with
  | nil => exact h₂
  | cons first _ ih => exact cons first (ih h₂)

lemma option {β : Type} {key : String} {print : β → List Char} (o : Option β) (none : o = none → d = d')
    (some : ∀ x, o = some x → Reads (entry key d) (':' :: print x) d') :
    Fills entry d (o.map fun x => (key, print x)).toList d' := by
  cases o with
  | none => exact none rfl ▸ nil d
  | some x => exact single (some x rfl)

end Fills

def continued (ms : List Member) : List Char :=
  ms.flatMap fun m => ',' :: printedMember m

lemma printedMembers_cons (m : Member) (ms : List Member) :
    printedMembers (m :: ms) = printedMember m ++ continued ms := by
  induction ms generalizing m with
  | nil => exact (List.append_nil _).symm
  | cons next ms ih =>
    change printedMember m ++ ',' :: printedMembers (next :: ms) = _
    rw [ih]
    rfl

lemma valueEnd_continued (ms : List Member) (rest : List Char) :
    ValueEnd (continued ms ++ '}' :: rest) := by
  cases ms with
  | nil => exact .brace rest
  | cons => exact .comma _

lemma length_le_continued (ms : List Member) : ms.length ≤ (continued ms).length := by
  induction ms with
  | nil => exact Nat.le_refl 0
  | cons m ms ih =>
    simp only [continued, List.flatMap_cons, List.length_append, List.length_cons] at ih ⊢
    omega

lemma printedMember_append (m : Member) (rest : List Char) :
    printedMember m ++ rest = printedString m.1 ++ (':' :: m.2 ++ rest) := by
  simp [printedMember]

lemma nextKey_first (m : Member) (rest : List Char) :
    nextKey true (printedMember m ++ rest) = .ok (some m.1, ':' :: m.2 ++ rest) := by
  have key := map_of_ok some (objectKey_printed m.1 (':' :: m.2 ++ rest))
  rw [printedMember_append]
  rw [printedString_append] at key ⊢
  exact key

lemma nextKey_later (m : Member) (rest : List Char) :
    nextKey false (',' :: (printedMember m ++ rest)) = .ok (some m.1, ':' :: m.2 ++ rest) := by
  have key := map_of_ok some (objectKey_printed m.1 (':' :: m.2 ++ rest))
  rw [printedMember_append]
  rw [printedString_append] at key ⊢
  exact key

lemma entries_step {first : Bool} {fuel : Nat} {cs text : List Char} {key : String}
    (named : nextKey first cs = .ok (some key, text)) {rest : List Char}
    (read : entry key d text = .ok (d₁, rest)) :
    entries entry (fuel + 1) first d cs = entries entry fuel false d₁ rest := by
  rw [entries, bind_of_ok named]
  exact bind_of_ok read

lemma entries_continued (h : Fills entry d ms d') {fuel : Nat} (enough : ms.length < fuel)
    (rest : List Char) : entries entry fuel false d (continued ms ++ '}' :: rest) = .ok (d', rest) := by
  induction h generalizing fuel with
  | nil =>
    obtain ⟨fuel, rfl⟩ := Nat.exists_eq_add_one_of_ne_zero (Nat.ne_of_gt enough)
    rfl
  | @cons d d₁ d₂ m ms first _ ih =>
    obtain ⟨fuel, rfl⟩ := Nat.exists_eq_add_one_of_ne_zero (Nat.ne_of_gt (Nat.zero_lt_of_lt enough))
    have text : continued (m :: ms) ++ '}' :: rest =
        ',' :: (printedMember m ++ (continued ms ++ '}' :: rest)) := by
      simp [continued]
    rw [text, entries_step (nextKey_later m _) (first (valueEnd_continued ms rest))]
    exact ih (Nat.lt_of_succ_lt_succ enough)

lemma objectTail_printed (h : Fills entry d ms d') (rest : List Char) :
    objectTail entry d (printedMembers ms ++ '}' :: rest) = .ok (d', rest) := by
  unfold objectTail
  cases h with
  | nil => rfl
  | @cons _ d₁ _ m ms first others =>
    rw [printedMembers_cons, List.append_assoc,
      entries_step (nextKey_first m _) (first (valueEnd_continued ms rest))]
    apply entries_continued others
    have := length_le_continued ms
    simp only [List.length_append, List.length_cons]
    omega

namespace RecordShape

variable {shape : RecordShape δ α} {v : α}

lemma entry_reads {key : String} {f : RecordField δ} {text : List Char}
    (known : shape.fields.find? (fun f => f.name = key) = some f) (fresh : f.given d = false)
    (h : Reads (f.read d) text d') : Reads (shape.entry key d) (':' :: text) d' := by
  intro tail ends
  unfold entry
  rw [known]
  dsimp only
  rw [fresh]
  exact h ends

lemma read_printedObject (h : Fills shape.entry shape.empty ms d) (done : shape.finish d = .ok v) :
    shape.read (printedObject ms) = .ok (v, []) := by
  have complete : shape.complete d = pure v := by
    unfold complete
    rw [done]
  have text : printedMembers ms ++ ['}'] = printedMembers ms ++ '}' :: [] := rfl
  change (objectTail shape.entry shape.empty >>= shape.complete) (printedMembers ms ++ ['}']) = _
  rw [bind_of_ok (objectTail_printed h []), complete]
  rfl

theorem all_printedObject (h : Fills shape.entry shape.empty ms d) (done : shape.finish d = .ok v) :
    shape.read.all (String.ofList (printedObject ms)) = .ok v := by
  unfold Reader.all
  rw [String.toList_ofList, read_printedObject h done]
  rfl

end RecordShape

variable {P : δ → Prop} {Q : α → Prop}

lemma Yields.entries (keeps : ∀ key d, P d → Yields (entry key d) P) (fuel : Nat) :
    ∀ first d, P d → Yields (entries entry fuel first d) P := by
  induction fuel with
  | zero => exact fun _ _ _ => Yields.fail _
  | succ fuel ih =>
    intro first d hd
    refine Yields.after fun key => ?_
    cases key with
    | none => exact Yields.pure hd
    | some key => exact (keeps key d hd).bind (ih false)

namespace RecordShape

variable {shape : RecordShape δ α}

def Keeps (shape : RecordShape δ α) (P : δ → Prop) : Prop :=
  ∀ f ∈ shape.fields, ∀ d, P d → Yields (f.read d) P

lemma failRecord_yields {β : Type} {R : β → Prop} (closer : Char) (fault : ShapeFault) :
    Yields (failRecord closer fault : Reader β) R := by
  refine Yields.after fun c => ?_
  split
  · exact Yields.after fun _ => Yields.fail _
  · exact Yields.fail _

lemma entry_yields (keeps : shape.Keeps P) (key : String) (d : δ) (hd : P d) :
    Yields (shape.entry key d) P := by
  unfold entry
  split
  next f found =>
    split
    · exact failRecord_yields _ _
    · exact Yields.after fun _ => keeps f (List.mem_of_find?_eq_some found) d hd
  · exact Yields.after fun _ => Yields.after fun _ => Yields.pure hd

lemma elements_yields (fs : List (RecordField δ)) (keeps : ∀ f ∈ fs, ∀ d, P d → Yields (f.read d) P)
    (index : Nat) (d : δ) (hd : P d) : Yields (shape.elements index d fs) P := by
  induction fs generalizing index d with
  | nil => exact Yields.pure hd
  | cons f fs ih =>
    have others := ih fun g hg => keeps g (List.mem_cons_of_mem f hg)
    refine Yields.after fun more => ?_
    split
    · exact (keeps f List.mem_cons_self d hd).bind (others (index + 1))
    · split
      · exact failRecord_yields _ _
      · exact Yields.pure hd

lemma complete_yields (done : ∀ d v, P d → shape.finish d = .ok v → Q v) (d : δ) (hd : P d) :
    Yields (shape.complete d) Q := by
  unfold complete
  split
  next v finished => exact Yields.pure (done d v hd finished)
  · exact Yields.fail _

theorem read_yields (keeps : shape.Keeps P) (empty : P shape.empty)
    (done : ∀ d v, P d → shape.finish d = .ok v → Q v) : Yields shape.read Q := by
  have entries : Yields (objectTail shape.entry shape.empty) P :=
    fun cs _ _ h => Yields.entries (entry_yields keeps) (cs.length + 1) true shape.empty empty h
  have elements : Yields (shape.elements 0 shape.empty shape.fields) P :=
    elements_yields shape.fields keeps 0 shape.empty empty
  refine Yields.after fun c => ?_
  split
  · exact Yields.fail _
  · exact Yields.after fun _ => entries.bind (complete_yields done)
  · exact Yields.after fun _ => elements.bind fun d hd => Yields.after fun _ => complete_yields done d hd
  · exact Yields.failKind _

end RecordShape

lemma Yields.all {r : Reader α} (h : Yields r Q) {text : String} {v : α} (read : r.all text = .ok v) :
    Q v := by
  unfold Reader.all at read
  split at read
  · cases read
  next value rest found =>
    split at read
    · cases read
      exact h found
    · cases read

end Marquee.Json
