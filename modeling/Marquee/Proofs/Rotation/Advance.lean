import Mathlib.Data.Set.Basic
import Mathlib.Order.Bounds.Defs
import Mathlib.Tactic.Lemma
import Marquee.Rotation

/-! Where rotation goes when it moves on: to the next screen whose provider is not set aside, or else to
the first screen in a new pass. -/

namespace Marquee.Rotation

variable {r r' : Rotation}

def Open (r : Rotation) (index : Nat) : Prop :=
  ∃ s, r.screens[index]? = some s ∧ r.isSkipped s.provider = false

def place (r : Rotation) : Rotation :=
  { r with onDisplay := none }

def Placed (r : Rotation) : Prop :=
  r.screens ≠ [] → r.index < r.screens.length

lemma rests_iff_open (h : r.index < r.screens.length) : r.rests ↔ r.Open r.index := by
  simp [rests, Open, current?, List.getElem?_eq_getElem h]

lemma not_isEmpty_of_lt (h : r.index < r.screens.length) : ¬ r.screens.isEmpty := by
  rw [List.isEmpty_iff_length_eq_zero]
  omega

lemma step_of_lt (h : r.index + 1 < r.screens.length) : r.step = { r with index := r.index + 1 } := by
  simp [step, Nat.mod_eq_of_lt h]

lemma step_of_last (h : r.index + 1 = r.screens.length) :
    r.step = { r with index := 0, passes := r.passes + 1, skipped := [] } := by
  simp [step, h]

lemma seek_spec (count : Nat) (h : r.index < r.screens.length)
    (hc : r.screens.length - r.index ≤ count) :
    (∃ index, r.index < index ∧ r.Open index ∧ (∀ k, r.index < k → k < index → ¬ r.Open k) ∧
      seek count r = { r with index }) ∨
    (∀ k, r.index < k → ¬ r.Open k) ∧
      seek count r = { r with index := 0, passes := r.passes + 1, skipped := [] } := by
  induction count generalizing r with
  | zero => omega
  | succ count ih =>
    rcases Nat.lt_or_eq_of_le (Nat.succ_le_of_lt h) with next | last
    · have hstep := step_of_lt next
      by_cases hopen : r.Open (r.index + 1)
      · left
        refine ⟨r.index + 1, by omega, hopen, by omega, ?_⟩
        have hrests : r.step.rests := by
          rw [hstep, rests_iff_open (by exact next)]
          exact hopen
        rw [seek, if_pos hrests, hstep]
      · have hrests : ¬ r.step.rests := by
          rw [hstep, rests_iff_open (by exact next)]
          exact hopen
        rw [seek, if_neg hrests, hstep]
        rcases ih (r := { r with index := r.index + 1 }) next (by simp; omega) with
          ⟨index, hlt, ho, hbefore, hseek⟩ | ⟨hnone, hseek⟩
        · left
          refine ⟨index, by simp at hlt; omega, ho, ?_, hseek⟩
          intro k hk hki
          rcases Nat.lt_or_eq_of_le (Nat.succ_le_of_lt hk) with hk | rfl
          · exact hbefore k hk hki
          · exact hopen
        · right
          refine ⟨?_, hseek⟩
          intro k hk
          rcases Nat.lt_or_eq_of_le (Nat.succ_le_of_lt hk) with hk | rfl
          · exact hnone k hk
          · exact hopen
    · right
      have hstep := step_of_last last
      have hrests : r.step.rests := by
        have hpos : 0 < r.screens.length := by omega
        rw [hstep, rests_iff_open (by exact hpos)]
        exact ⟨r.screens[0], by simp [List.getElem?_eq_getElem hpos], by simp [isSkipped]⟩
      refine ⟨?_, by rw [seek, if_pos hrests, hstep]⟩
      rintro k hk ⟨s, hs, _⟩
      have hlt := (List.getElem?_eq_some_iff.mp hs).1
      omega

lemma advance_spec (h : r.index < r.screens.length) :
    (∃ index, r.index < index ∧ r.Open index ∧ (∀ k, r.index < k → k < index → ¬ r.Open k) ∧
      r.advance = { r with index, advances := r.advances + 1 }) ∨
    (∀ k, r.index < k → ¬ r.Open k) ∧
      r.advance = { r with
        index := 0, passes := r.passes + 1, skipped := [], advances := r.advances + 1 } := by
  have hne := not_isEmpty_of_lt h
  rcases seek_spec r.screens.length h (by omega) with
    ⟨index, hlt, ho, hbefore, hseek⟩ | ⟨hnone, hseek⟩
  · exact .inl ⟨index, hlt, ho, hbefore, by simp [advance, hne, hseek]⟩
  · exact .inr ⟨hnone, by simp [advance, hne, hseek]⟩

@[simp] lemma screens_step (r : Rotation) : r.step.screens = r.screens := by
  simp only [step]
  split <;> rfl

lemma seek_keeps {α : Type} {f : Rotation → α} (step : ∀ r, f r.step = f r) (count : Nat) (r : Rotation) :
    f (seek count r) = f r := by
  induction count generalizing r with
  | zero => rfl
  | succ count ih =>
    rw [seek]
    split
    · exact step r
    · rw [ih, step]

@[simp] lemma screens_seek (count : Nat) (r : Rotation) : (seek count r).screens = r.screens :=
  seek_keeps screens_step count r

@[simp] lemma screens_advance (r : Rotation) : r.advance.screens = r.screens := by
  rw [advance]
  split
  · rfl
  · exact screens_seek _ r

lemma onDisplay_step (r : Rotation) : r.step.onDisplay = r.onDisplay := by
  simp only [step]
  split <;> rfl

lemma onDisplay_seek (count : Nat) (r : Rotation) : (seek count r).onDisplay = r.onDisplay :=
  seek_keeps onDisplay_step count r

lemma advances_step (r : Rotation) : r.step.advances = r.advances := by
  simp only [step]
  split <;> rfl

lemma advances_seek (count : Nat) (r : Rotation) : (seek count r).advances = r.advances :=
  seek_keeps advances_step count r

lemma onDisplay_advance (r : Rotation) : r.advance.onDisplay = r.onDisplay := by
  rw [advance]
  split
  · rfl
  · exact onDisplay_seek _ r

lemma onDisplay_skip (r : Rotation) (provider : ProviderId) : (r.skip provider).onDisplay = r.onDisplay := by
  rw [skip]
  split <;> rfl

@[simp] lemma screens_skip (r : Rotation) (provider : ProviderId) :
    (r.skip provider).screens = r.screens := by
  rw [skip]
  split <;> rfl

@[simp] lemma index_skip (r : Rotation) (provider : ProviderId) :
    (r.skip provider).index = r.index := by
  rw [skip]
  split <;> rfl

@[simp] lemma passes_skip (r : Rotation) (provider : ProviderId) :
    (r.skip provider).passes = r.passes := by
  rw [skip]
  split <;> rfl

@[simp] lemma advances_skip (r : Rotation) (provider : ProviderId) :
    (r.skip provider).advances = r.advances := by
  rw [skip]
  split <;> rfl

lemma isSkipped_skip_iff {provider other : ProviderId} :
    (r.skip other).isSkipped provider ↔ r.isSkipped provider ∨ other = provider := by
  rw [skip]
  split
  next already =>
    refine ⟨.inl, fun h => h.elim id ?_⟩
    rintro rfl
    exact already
  next => simp [isSkipped, eq_comm (a := other)]

lemma advances_advance (h : ¬ r.screens.isEmpty) : r.advance.advances = r.advances + 1 := by
  rw [advance, if_neg h]
  exact congrArg (· + 1) (advances_seek _ _)

lemma place_step (r : Rotation) : r.step.place = r.place.step := by
  by_cases last : (r.index + 1) % r.screens.length = 0
  · have hstep : r.step = { r with index := 0, passes := r.passes + 1, skipped := [] } :=
      if_pos last
    rw [hstep]
    exact (if_pos last).symm
  · have hstep : r.step = { r with index := (r.index + 1) % r.screens.length } := if_neg last
    rw [hstep]
    exact (if_neg last).symm

lemma place_seek (count : Nat) (r : Rotation) : (seek count r).place = seek count r.place := by
  induction count generalizing r with
  | zero => rfl
  | succ count ih =>
    have hrests : r.place.step.rests = r.step.rests := by
      rw [← place_step]
      rfl
    rw [seek, seek, hrests]
    split
    · exact place_step r
    · rw [ih, place_step]

lemma place_advance (r : Rotation) : r.advance.place = r.place.advance := by
  by_cases hnil : r.screens.isEmpty
  · have hadv : r.advance = r := if_pos hnil
    rw [hadv]
    exact (if_pos hnil).symm
  · have hadv : r.advance = { seek r.screens.length r with
        advances := (seek r.screens.length r).advances + 1 } := if_neg hnil
    have hplace : r.place.advance = { seek r.screens.length r.place with
        advances := (seek r.screens.length r.place).advances + 1 } := if_neg hnil
    rw [hadv, hplace, ← place_seek]
    rfl

lemma place_skip (r : Rotation) (provider : ProviderId) :
    (r.skip provider).place = r.place.skip provider := by
  by_cases hs : r.isSkipped provider
  · have hskip : r.skip provider = r := if_pos hs
    rw [hskip]
    exact (if_pos hs).symm
  · have hskip : r.skip provider = { r with skipped := r.skipped ++ [provider] } := if_neg hs
    rw [hskip]
    exact (if_neg hs).symm

lemma Placed.advance (h : r.Placed) : r.advance.Placed := by
  intro hne
  rw [screens_advance] at hne ⊢
  rcases advance_spec (h hne) with ⟨index, _, ⟨s, hs, _⟩, _, hadv⟩ | ⟨_, hadv⟩
  · rw [hadv]
    exact (List.getElem?_eq_some_iff.mp hs).1
  · rw [hadv]
    exact List.length_pos_iff.mpr hne

lemma Placed.skip (h : r.Placed) (provider : ProviderId) : (r.skip provider).Placed := by
  simpa [Placed] using h

def later (r : Rotation) : Set Nat :=
  {index | r.index < index ∧ r.Open index}

lemma isLeast_later {index : Nat} (after : r.index < index) (isOpen : r.Open index)
    (before : ∀ k, r.index < k → k < index → ¬ r.Open k) : IsLeast r.later index := by
  refine ⟨⟨after, isOpen⟩, ?_⟩
  rintro k ⟨hk, ho⟩
  exact Nat.le_of_not_lt fun less => before k hk less ho

/-- Rotation lands on a screen whose provider is not set aside. It is the next one there is in this pass,
and nobody's place changes; if there is none, it is the first screen in a new pass, in which nobody is set
aside. -/
theorem advance_lands_on_next (r : Rotation) (standing : r.index < r.screens.length) :
    (∃ screen, r.advance.current? = some screen ∧ r.advance.isSkipped screen.provider = false) ∧
    (r.later.Nonempty → IsLeast r.later r.advance.index ∧
      r.advance = { r with index := r.advance.index, advances := r.advances + 1 }) ∧
    (r.later = ∅ → r.advance =
      { r with index := 0, passes := r.passes + 1, skipped := [], advances := r.advances + 1 }) := by
  rcases advance_spec standing with ⟨index, after, isOpen, before, landed⟩ | ⟨none, landed⟩
  · have least := isLeast_later after isOpen before
    rw [landed]
    refine ⟨isOpen, fun _ => ⟨least, rfl⟩, fun empty => ?_⟩
    exact absurd least.1 (empty ▸ Set.notMem_empty index)
  · have some : 0 < r.screens.length := Nat.zero_lt_of_lt standing
    rw [landed]
    refine ⟨⟨r.screens[0], List.getElem?_eq_getElem some, rfl⟩, ?_, fun _ => rfl⟩
    rintro ⟨index, after, isOpen⟩
    exact absurd isOpen (none index after)

def alternating (skipped : List ProviderId) : Rotation where
  screens := [⟨"a1", "a"⟩, ⟨"b", "b"⟩, ⟨"a2", "a"⟩, ⟨"c", "c"⟩]
  index := 1
  skipped

theorem set_aside_screens_are_left_out :
    (alternating ["a", "d"]).advance =
      { alternating ["a", "d"] with index := 3, advances := 1 } ∧
    (alternating ["c", "a", "b"]).advance =
      { alternating [] with index := 0, passes := 1, advances := 1 } := by
  constructor
  · have next : (alternating ["a", "d"]).later.Nonempty := ⟨3, by decide, ⟨"c", "c"⟩, rfl, rfl⟩
    exact ((advance_lands_on_next (alternating ["a", "d"]) (by decide)).2.1 next).2
  · refine (advance_lands_on_next (alternating ["c", "a", "b"]) (by decide)).2.2 ?_
    rw [Set.eq_empty_iff_forall_notMem]
    rintro index ⟨after, screen, here, kept⟩
    match index, after with
    | 2, _ | 3, _ =>
      obtain rfl := Option.some.inj here
      cases kept
    | index + 4, _ => cases here

end Marquee.Rotation
