import Mathlib.Tactic.Lemma
import Marquee.Scheduler.Event

/-! What the entries of a journal say about the sessions and the rotation up to then. -/

namespace Marquee

namespace Event

def isOver : Event → Bool
  | .sessionOver _ _ _ => true
  | _ => false

def isSession : Event → Bool
  | .sessionBegun _ _ _ | .sessionOver _ _ _ => true
  | _ => false

def isRotated : Event → Bool
  | .rotated _ => true
  | _ => false

def isLoud : Event → Bool
  | .sessionBegun _ _ _ | .sessionOver _ _ _ | .rotated _ | .opened _ _ _ | .drawn _ => true
  | _ => false

def isScene : Event → Bool
  | .rotated _ | .opened _ _ _ | .drawn _ => true
  | _ => false

def isTaken : Event → Bool
  | .taken _ _ => true
  | _ => false

def frame? : Event → Option Frame
  | .drawn f => some f
  | _ => none

def opening? : Event → Option (Selection × Airtime × Instant)
  | .opened selection airtime time => some (selection, airtime, time)
  | _ => none

def over? : Event → Option (Session × Rotation × Instant)
  | .sessionOver session rotation time => some (session, rotation, time)
  | _ => none

variable {e : Event}

lemma isSession_of_not_isLoud (h : e.isLoud = false) : e.isSession = false := by
  cases e <;> simp_all [isLoud, isSession]

lemma isRotated_of_not_isLoud (h : e.isLoud = false) : e.isRotated = false := by
  cases e <;> simp_all [isLoud, isRotated]

lemma isScene_of_not_isLoud (h : e.isLoud = false) : e.isScene = false := by
  cases e <;> simp_all [isLoud, isScene]

lemma isRotated_of_not_isScene (h : e.isScene = false) : e.isRotated = false := by
  cases e <;> simp_all [isScene, isRotated]

lemma isOver_of_not_isSession (h : e.isSession = false) : e.isOver = false := by
  cases e <;> simp_all [isSession, isOver]

lemma eq_of_frame? {f : Frame} (h : e.frame? = some f) : e = .drawn f := by
  cases e <;> cases h
  rfl

lemma eq_of_opening? {selection : Selection} {airtime : Airtime} {time : Instant}
    (h : e.opening? = some (selection, airtime, time)) : e = .opened selection airtime time := by
  cases e <;> cases h
  rfl

lemma eq_of_over? {session : Session} {rotation : Rotation} {time : Instant}
    (h : e.over? = some (session, rotation, time)) : e = .sessionOver session rotation time := by
  cases e <;> cases h
  rfl

end Event

namespace Journal

/-- Each entry is as `Q` asks, given the entries before it. -/
def Always (Q : Event → Journal → Prop) : Journal → Prop
  | [] => True
  | e :: j => Q e j ∧ Always Q j

def at? {α : Type} (j : Journal) (n : Nat) (pick : Event → Option α) : Option α :=
  j[n]?.bind pick

def session? : Journal → Option Session
  | [] => none
  | .sessionBegun s _ _ :: _ => some s
  | .sessionOver _ _ _ :: _ => none
  | _ :: j => session? j

/-- The passes that rotation had completed at its last step. -/
def passes : Journal → Nat
  | [] => 0
  | .rotated r :: _ => r.passes
  | _ :: j => passes j

/-- Rotation stood at `index` when the chain of sessions in force began. Its first session began
while there was none, each other one in place of the one before. -/
inductive Chain : Journal → Nat → Prop
  | first {s : Session} {r : Rotation} {t : Instant} {j : Journal} :
      session? j = none → Chain (.sessionBegun s r t :: j) r.index
  | later {e : Event} {j : Journal} {index : Nat} :
      Chain j index → e.isOver = false → Chain (e :: j) index

variable {Q : Event → Journal → Prop} {j new : Journal} {e : Event}

lemma split_at {α : Type} {n : Nat} {pick : Event → Option α} {a : α} (h : a ∈ j.at? n pick)
    (picked : ∀ e', pick e' = some a → e' = e) : j = j.take n ++ e :: j.drop (n + 1) := by
  obtain ⟨e', he, ha⟩ := Option.bind_eq_some_iff.mp h
  obtain rfl := picked e' ha
  obtain ⟨bound, rfl⟩ := List.getElem?_eq_some_iff.mp he
  rw [← List.drop_eq_getElem_cons bound, List.take_append_drop]

lemma split_at_frame {n : Nat} {f : Frame} (h : f ∈ j.at? n Event.frame?) :
    j = j.take n ++ .drawn f :: j.drop (n + 1) :=
  split_at h fun _ => Event.eq_of_frame?

lemma split_at_opening {n : Nat} {selection : Selection} {airtime : Airtime} {time : Instant}
    (h : (selection, airtime, time) ∈ j.at? n Event.opening?) :
    j = j.take n ++ .opened selection airtime time :: j.drop (n + 1) :=
  split_at h fun _ => Event.eq_of_opening?

lemma split_twice {e' : Event} {later before mid older : Journal} (h : j = later ++ e :: before)
    (h' : before = mid ++ e' :: older) : j = later ++ e :: (mid ++ e' :: older) := by
  rw [h, ← h']

lemma Always.of_append (h : Always Q (new ++ j)) : Always Q j := by
  induction new with
  | nil => exact h
  | cons _ _ ih => exact ih h.2

lemma Always.of_split {later : Journal} (h : Always Q (later ++ e :: j)) : Q e j :=
  h.of_append.1

lemma Always.append (hQ : ∀ e ∈ new, ∀ j, Q e j) (h : Always Q j) : Always Q (new ++ j) := by
  induction new with
  | nil => exact h
  | cons e new ih => exact ⟨hQ e (by simp) _, ih fun e he => hQ e (by simp [he])⟩

lemma session?_cons (he : e.isSession = false) : session? (e :: j) = session? j := by
  cases e <;> simp_all [Event.isSession, session?]

lemma passes_cons (he : e.isRotated = false) : passes (e :: j) = passes j := by
  cases e <;> simp_all [Event.isRotated, passes]

lemma session?_append (hnew : ∀ e ∈ new, e.isSession = false) :
    session? (new ++ j) = session? j := by
  induction new with
  | nil => rfl
  | cons e new ih =>
    rw [List.cons_append, session?_cons (hnew e (by simp)), ih fun e he => hnew e (by simp [he])]

lemma passes_append (hnew : ∀ e ∈ new, e.isRotated = false) : passes (new ++ j) = passes j := by
  induction new with
  | nil => rfl
  | cons e new ih =>
    rw [List.cons_append, passes_cons (hnew e (by simp)), ih fun e he => hnew e (by simp [he])]

lemma Chain.append {index : Nat} (hnew : ∀ e ∈ new, e.isSession = false) (h : Chain j index) :
    Chain (new ++ j) index := by
  induction new with
  | nil => exact h
  | cons e new ih =>
    exact .later (ih fun e he => hnew e (by simp [he]))
      (Event.isOver_of_not_isSession (hnew e (by simp)))

lemma Chain.session?_ne_none {index : Nat} (h : Chain j index) : session? j ≠ none := by
  induction h with
  | first => simp [session?]
  | @later e j index _ he ih => cases e <;> simp_all [Event.isOver, session?]

lemma Chain.unique {index index' : Nat} (h : Chain j index) (h' : Chain j index') :
    index = index' := by
  induction h with
  | first hnone =>
    cases h' with
    | first => rfl
    | later hc => exact absurd hnone hc.session?_ne_none
  | later hc _ ih =>
    cases h' with
    | first hnone => exact absurd hnone hc.session?_ne_none
    | later hc' => exact ih hc'

end Journal

end Marquee
