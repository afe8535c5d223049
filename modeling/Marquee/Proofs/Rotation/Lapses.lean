import Marquee.Proofs.Journal

namespace Marquee

def Drawing.isFailure : Drawing → Bool
  | .failed _ => true
  | _ => false

namespace Frame

def selection (f : Frame) : Selection :=
  ⟨f.screen, f.source⟩

def lapsed (f : Frame) : Bool :=
  f.source ≠ .onDemand && f.drawing.isFailure

end Frame

structure Lapse where
  selection : Selection
  moved : Bool := false

def Lapse.provider (l : Lapse) : ProviderId :=
  l.selection.screen.provider

def Lapse.onward (l : Lapse) : Lapse :=
  { l with moved := true }

def Event.Rises (e : Event) (before : Journal) : Prop :=
  match e with
  | .rotated r => before.passes ≤ r.passes
  | _ => True

namespace Journal

def lapses : Journal → List Lapse
  | [] => []
  | .drawn f :: j => if f.lapsed then { selection := f.selection } :: lapses j else lapses j
  | .rotated r :: j => if r.passes = passes j then (lapses j).map Lapse.onward else []
  | _ :: j => lapses j

variable {j new : Journal} {e : Event} {l : Lapse}

lemma lapses_cons (he : e.isScene = false) : lapses (e :: j) = lapses j := by
  cases e <;> simp_all [Event.isScene, lapses]

lemma lapses_append (hnew : ∀ e ∈ new, e.isScene = false) : lapses (new ++ j) = lapses j := by
  induction new with
  | nil => rfl
  | cons e new ih =>
    rw [List.cons_append, lapses_cons (hnew e (by simp)), ih fun e he => hnew e (by simp [he])]

lemma source_of_mem_lapses (h : l ∈ lapses j) : l.selection.source ≠ .onDemand := by
  induction j generalizing l with
  | nil => cases h
  | cons e j ih =>
    cases e with
    | drawn f =>
      rw [lapses] at h
      split at h
      next lapsed =>
        rcases List.mem_cons.mp h with rfl | h
        · simp only [Frame.lapsed, Bool.and_eq_true, decide_eq_true_eq] at lapsed
          exact lapsed.1
        · exact ih h
      · exact ih h
    | rotated r =>
      rw [lapses] at h
      split at h
      · obtain ⟨l', hl', rfl⟩ := List.mem_map.mp h
        exact ih (l := l') hl'
      · cases h
    | _ => exact ih h

lemma Always.passes_le (h : Always Event.Rises (new ++ j)) : passes j ≤ passes (new ++ j) := by
  induction new with
  | nil => exact Nat.le_refl _
  | cons e new ih =>
    have hle := ih h.2
    cases e with
    | rotated r => exact Nat.le_trans hle h.1
    | _ => exact hle

lemma mem_lapses {mid older : Journal} {f : Frame}
    (h : Always Event.Rises (mid ++ .drawn f :: older)) (hf : f.lapsed)
    (hp : passes (mid ++ .drawn f :: older) = passes older) :
    { selection := f.selection, moved := mid.any Event.isRotated } ∈
      lapses (mid ++ .drawn f :: older) := by
  induction mid with
  | nil => simp [lapses, hf]
  | cons e mid ih =>
    cases e with
    | rotated r =>
      have hle : passes older ≤ passes (mid ++ .drawn f :: older) := h.2.passes_le
      have hrise : passes (mid ++ .drawn f :: older) ≤ r.passes := h.1
      have hr : r.passes = passes older := hp
      have hsame : passes (mid ++ .drawn f :: older) = passes older := by omega
      rw [List.cons_append, lapses, if_pos (hr.trans hsame.symm), List.mem_map]
      exact ⟨_, ih h.2 hsame, rfl⟩
    | drawn g =>
      rw [List.cons_append, lapses]
      split
      · exact List.mem_cons_of_mem _ (ih h.2 hp)
      · exact ih h.2 hp
    | _ => exact ih h.2 hp

end Journal

end Marquee
