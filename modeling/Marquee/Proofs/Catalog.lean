import Mathlib.Data.List.Nodup
import Marquee.Catalog

namespace Marquee.Catalog

inductive Registered : Catalog → Prop
  | empty : Registered {}
  | register {c : Catalog} (provider : ProviderId) (modes : List ModeId) : Registered c →
      Registered (c.register provider modes).value.1

variable {c : Catalog} {provider : ProviderId} {screens : List Screen} {screen : Screen}

lemma mem_declare {mode : ModeId} (h : screen ∈ (declare provider screens mode).value) :
    screen ∈ screens ∨ screen.provider = provider := by
  rw [declare] at h
  split at h
  · exact .inl h
  · rcases List.mem_append.mp h with known | new
    · exact .inl known
    · obtain rfl := List.mem_singleton.mp new
      exact .inr rfl

lemma mem_declareAll {modes : List ModeId} (h : screen ∈ (declareAll provider screens modes).value) :
    screen ∈ screens ∨ screen.provider = provider := by
  induction modes generalizing screens with
  | nil => exact .inl h
  | cons mode modes ih =>
    rcases ih h with known | new
    · exact mem_declare known
    · exact .inr new

lemma hasProvider_iff : c.hasProvider provider ↔ provider ∈ c.providers := by
  rw [hasProvider, List.contains_iff_mem]

lemma Registered.hasProvider (h : c.Registered) (hs : screen ∈ c.screens) :
    c.hasProvider screen.provider := by
  induction h with
  | empty => cases hs
  | @register c provider modes _ ih =>
    rw [Catalog.register] at hs ⊢
    split at hs
    next repeated =>
      rw [if_pos repeated]
      exact ih hs
    next fresh =>
      rw [if_neg fresh]
      refine hasProvider_iff.mpr (List.mem_append.mpr ?_)
      rcases mem_declareAll hs with known | new
      · exact .inl (hasProvider_iff.mp (ih known))
      · exact .inr (List.mem_singleton.mpr new)

lemma declare_nodup {mode : ModeId} (h : (screens.map Screen.mode).Nodup) :
    ((declare provider screens mode).value.map Screen.mode).Nodup := by
  rw [declare]
  split
  · exact h
  next free =>
    rw [List.find?_isSome] at free
    simp only [Noted.value_pure, List.map_append, List.map_singleton]
    refine List.nodup_append.mpr ⟨h, List.nodup_singleton _, ?_⟩
    rintro taken htaken _ hmode rfl
    obtain ⟨screen, hs, rfl⟩ := List.mem_map.mp htaken
    exact free ⟨screen, hs, by simpa using hmode⟩

lemma declareAll_nodup {modes : List ModeId} (h : (screens.map Screen.mode).Nodup) :
    ((declareAll provider screens modes).value.map Screen.mode).Nodup := by
  induction modes generalizing screens with
  | nil => exact h
  | cons mode modes ih => exact ih (declare_nodup h)

lemma Registered.modes_nodup (h : c.Registered) : (c.screens.map Screen.mode).Nodup := by
  induction h with
  | empty => exact List.nodup_nil
  | register provider modes _ ih =>
    rw [Catalog.register]
    split
    · exact ih
    · exact declareAll_nodup ih

lemma Registered.screen?_eq_some_iff (h : c.Registered) {mode : ModeId} :
    c.screen? mode = some screen ↔ screen ∈ c.screens ∧ screen.mode = mode := by
  constructor
  · intro found
    exact ⟨List.mem_of_find?_eq_some found, by simpa using List.find?_some found⟩
  · rintro ⟨mem, rfl⟩
    cases found : c.screen? screen.mode with
    | none => simpa using List.find?_eq_none.mp found screen mem
    | some other =>
      have same : other.mode = screen.mode := by simpa using List.find?_some found
      rw [List.inj_on_of_nodup_map h.modes_nodup (List.mem_of_find?_eq_some found) mem same]

lemma firstScreenOf?_eq_some_iff : c.firstScreenOf? provider = some screen ↔
    screen.provider = provider ∧ ∃ before after, c.screens = before ++ screen :: after ∧
      ∀ earlier ∈ before, earlier.provider ≠ provider := by
  rw [firstScreenOf?, List.find?_eq_some_iff_append]
  simp

lemma mem_rotationOrder :
    provider ∈ c.rotationOrder ↔ ∃ screen ∈ c.screens, screen.provider = provider := by
  have fold (screens : List Screen) (ids : List ProviderId) :
      provider ∈ screens.foldl (fun ids s => if ids.contains s.provider then ids else ids ++ [s.provider]) ids ↔
        provider ∈ ids ∨ ∃ screen ∈ screens, screen.provider = provider := by
    induction screens generalizing ids with
    | nil => simp
    | cons screen screens ih =>
      rw [List.foldl_cons, ih, List.exists_mem_cons_iff, ← or_assoc]
      refine or_congr_left ?_
      split
      next known =>
        refine ⟨.inl, fun h => h.elim id ?_⟩
        rintro rfl
        exact List.contains_iff_mem.mp known
      next => rw [List.mem_append, List.mem_singleton, eq_comm]
  rw [rotationOrder, fold]
  simp

end Marquee.Catalog
