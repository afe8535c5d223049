namespace Marquee

structure Table (β : Type) where
  entries : List (String × β) := []
  deriving Repr

namespace Table

variable {β γ : Type}

def get? (t : Table β) (name : String) : Option β :=
  t.entries.lookup name

def put (name : String) (value : β) : List (String × β) → List (String × β)
  | [] => [(name, value)]
  | e :: es => if e.1 = name then (name, value) :: es else e :: put name value es

def insert (t : Table β) (name : String) (value : β) : Table β :=
  ⟨put name value t.entries⟩

def names (t : Table β) : List String :=
  t.entries.map Prod.fst

theorem lookup_put (name other : String) (value : β) (es : List (String × β)) :
    (put name value es).lookup other = if other = name then some value else es.lookup other := by
  induction es with
  | nil =>
    by_cases h : other = name
    · simp [put, h]
    · have hne : (other == name) = false := by simpa using h
      simp [put, List.lookup_cons, h, hne]
  | cons e es ih =>
    obtain ⟨key, old⟩ := e
    by_cases h : other = key
    · subst h
      by_cases hk : other = name <;> simp [put, hk]
    · have hne : (other == key) = false := by simpa using h
      by_cases hk : key = name
      · subst hk
        simp [put, List.lookup_cons, h, hne]
      · simp [put, hk, List.lookup_cons, hne, ih]

@[simp] theorem get?_empty (name : String) : (⟨[]⟩ : Table β).get? name = none := rfl

@[simp] theorem get?_insert (t : Table β) (name other : String) (value : β) :
    (t.insert name value).get? other = if other = name then some value else t.get? other :=
  lookup_put name other value t.entries

end Table

end Marquee
