import Mathlib.Data.List.Induction
import Marquee.Proofs.Catalog

/-! A catalog is filled by registrations, one after the other. The first provider of a name and the first
declaration of a mode count; the order of rotation is that of the first screens. -/

namespace Marquee

structure Registration where
  provider : ProviderId
  modes : List ModeId

def Registration.screens (r : Registration) : List Screen :=
  r.modes.map fun mode => ⟨mode, r.provider⟩

def firstBy {α β : Type} [BEq β] (key : α → β) (xs : List α) : List α :=
  xs.eraseDupsBy fun x y => key x == key y

section

variable {α β : Type} [DecidableEq β] (key : α → β)

lemma firstBy_cons (x : α) (xs : List α) :
    firstBy key (x :: xs) = x :: firstBy key (xs.filter fun y => key y ≠ key x) := by
  simp [firstBy, List.eraseDupsBy_cons]

lemma firstBy_induction {P : List α → Prop} (nil : P [])
    (cons : ∀ x xs, P (xs.filter fun y => key y ≠ key x) → P (x :: xs)) (xs : List α) : P xs := by
  induction hn : xs.length using Nat.strongRecOn generalizing xs with
  | ind n ih =>
    cases xs with
    | nil => exact nil
    | cons x xs =>
      refine cons x xs (ih _ ?_ _ rfl)
      rw [← hn]
      exact Nat.lt_succ_of_le (List.length_filter_le _ _)

lemma mem_map_firstBy (xs : List α) (b : β) : b ∈ (firstBy key xs).map key ↔ b ∈ xs.map key := by
  induction xs using firstBy_induction key with
  | nil => rfl
  | cons x xs ih =>
    rw [firstBy_cons, List.map_cons, List.map_cons, List.mem_cons, List.mem_cons, ih]
    by_cases same : b = key x
    · simp [same]
    · simp only [same, false_or, List.mem_map, List.mem_filter, decide_eq_true_eq]
      grind

lemma firstBy_concat (xs : List α) (x : α) :
    firstBy key (xs ++ [x]) = if key x ∈ xs.map key then firstBy key xs else firstBy key xs ++ [x] := by
  induction xs using firstBy_induction key with
  | nil => rfl
  | cons y ys ih =>
    rw [List.cons_append, firstBy_cons, firstBy_cons, List.filter_append]
    by_cases same : key x = key y
    · simp [same]
    · have kept : [x].filter (fun z => key z ≠ key y) = [x] := by simp [same]
      have later : key x ∈ (ys.filter fun z => key z ≠ key y).map key ↔ key x ∈ (y :: ys).map key := by
        simp only [List.map_cons, List.mem_cons, same, false_or, List.mem_map, List.mem_filter,
          decide_eq_true_eq]
        grind
      rw [kept, ih, if_congr later rfl rfl, apply_ite (y :: ·), List.cons_append]

lemma firstBy_nodup (xs : List α) : ((firstBy key xs).map key).Nodup := by
  induction xs using List.reverseRecOn with
  | nil => exact List.nodup_nil
  | append_singleton xs x ih =>
    rw [firstBy_concat]
    split
    · exact ih
    next fresh =>
      rw [List.map_append]
      refine List.nodup_append.mpr ⟨ih, List.nodup_singleton _, ?_⟩
      rintro b hb _ hx rfl
      rw [List.mem_singleton.mp hx] at hb
      exact fresh ((mem_map_firstBy key xs _).mp hb)

lemma firstBy_pairwise (xs : List β) :
    (firstBy id xs).Pairwise fun x y => xs.idxOf x < xs.idxOf y := by
  induction xs using List.reverseRecOn with
  | nil => exact List.Pairwise.nil
  | append_singleton xs x ih =>
    have known {y : β} (hy : y ∈ firstBy id xs) : y ∈ xs := by
      simpa using (mem_map_firstBy id xs y).mp (by simpa using hy)
    have before : (firstBy id xs).Pairwise fun y z => (xs ++ [x]).idxOf y < (xs ++ [x]).idxOf z :=
      ih.imp_of_mem fun hy hz lt => by
        rwa [List.idxOf_append_of_mem (known hy), List.idxOf_append_of_mem (known hz)]
    rw [firstBy_concat]
    split
    · exact before
    next fresh =>
      have new : x ∉ xs := by simpa using fresh
      refine List.pairwise_append.mpr ⟨before, List.pairwise_singleton _ _, fun y hy z hz => ?_⟩
      obtain rfl := List.mem_singleton.mp hz
      rw [List.idxOf_append_of_mem (known hy), List.idxOf_append_of_notMem new]
      exact Nat.lt_of_lt_of_le (List.idxOf_lt_length_of_mem (known hy)) (Nat.le_add_right _ _)

lemma existsUnique_firstBy (xs : List α) (b : β) :
    (∃! x, x ∈ firstBy key xs ∧ key x = b) ↔ b ∈ (firstBy key xs).map key := by
  rw [List.mem_map]
  refine ⟨fun ⟨x, hx, _⟩ => ⟨x, hx⟩, fun ⟨x, hx, hb⟩ => ⟨x, ⟨hx, hb⟩, fun y ⟨hy, hb'⟩ => ?_⟩⟩
  exact List.inj_on_of_nodup_map (firstBy_nodup key xs) hy hx (hb'.trans hb.symm)

end

namespace Catalog

def filled (rs : List Registration) : Catalog :=
  rs.foldl (fun c r => (c.register r.provider r.modes).value.1) {}

def Precedes (screens : List Screen) (provider later : ProviderId) : Prop :=
  (screens.map Screen.provider).idxOf provider < (screens.map Screen.provider).idxOf later

/-- What is in a catalog after these registrations, in which order, and what is found there. -/
structure FilledBy (rs : List Registration) (c : Catalog) : Prop where
  providers : c.providers = (firstBy Registration.provider rs).map Registration.provider
  screens : c.screens =
    firstBy Screen.mode ((firstBy Registration.provider rs).flatMap Registration.screens)
  providers_nodup : c.providers.Nodup
  modes_nodup : (c.screens.map Screen.mode).Nodup
  owners : ∀ screen ∈ c.screens, screen.provider ∈ c.providers
  rotation_nodup : c.rotationOrder.Nodup
  mem_rotation : ∀ provider, provider ∈ c.rotationOrder ↔ ∃ screen ∈ c.screens, screen.provider = provider
  rotation_in_order : c.rotationOrder.Pairwise (Precedes c.screens)
  screen? : ∀ mode screen, c.screen? mode = some screen ↔ screen ∈ c.screens ∧ screen.mode = mode
  hasProvider : ∀ provider, c.hasProvider provider ↔
    ∃! r, r ∈ firstBy Registration.provider rs ∧ r.provider = provider
  firstScreenOf? : ∀ provider screen, c.firstScreenOf? provider = some screen ↔
    screen.provider = provider ∧ ∃ before after, c.screens = before ++ screen :: after ∧
      ∀ earlier ∈ before, earlier.provider ≠ provider

variable {c : Catalog} {r : Registration}

lemma rotationOrder_eq (c : Catalog) : c.rotationOrder = firstBy id (c.screens.map Screen.provider) := by
  have fold (screens : List Screen) :
      screens.foldl (fun ids s => if ids.contains s.provider then ids else ids ++ [s.provider]) [] =
        firstBy id (screens.map Screen.provider) := by
    induction screens using List.reverseRecOn with
    | nil => rfl
    | append_singleton screens s ih =>
      have known : (firstBy id (screens.map Screen.provider)).contains s.provider ↔
          id s.provider ∈ (screens.map Screen.provider).map id := by
        rw [List.contains_iff_mem, ← mem_map_firstBy, List.map_id, id]
      rw [List.foldl_append, ih, List.map_append, List.map_singleton, firstBy_concat]
      exact if_congr known rfl rfl
  exact fold c.screens

lemma rotationOrder_nodup (c : Catalog) : c.rotationOrder.Nodup := by
  rw [rotationOrder_eq]
  simpa using firstBy_nodup id (c.screens.map Screen.provider)

lemma rotationOrder_pairwise (c : Catalog) : c.rotationOrder.Pairwise (Precedes c.screens) := by
  rw [rotationOrder_eq]
  exact firstBy_pairwise _

lemma declareAll_firstBy (provider : ProviderId) (declared : List Screen) (modes : List ModeId) :
    (declareAll provider (firstBy Screen.mode declared) modes).value =
      firstBy Screen.mode (declared ++ (Registration.mk provider modes).screens) := by
  induction modes generalizing declared with
  | nil => exact congrArg (firstBy Screen.mode) (List.append_nil declared).symm
  | cons mode modes ih =>
    have taken : ((firstBy Screen.mode declared).find? fun s => s.mode = mode).isSome ↔
        mode ∈ declared.map Screen.mode := by
      rw [← mem_map_firstBy, List.find?_isSome, List.mem_map]
      simp only [decide_eq_true_eq]
    have first : (declare provider (firstBy Screen.mode declared) mode).value =
        firstBy Screen.mode (declared ++ [⟨mode, provider⟩]) := by
      rw [firstBy_concat, declare, apply_ite Noted.value]
      exact if_congr taken rfl rfl
    rw [declareAll, Noted.value_bind, first, ih, List.append_assoc]
    rfl

lemma declareAll_extends (provider : ProviderId) (screens : List Screen) (modes : List ModeId) :
    ∃ added, (declareAll provider screens modes).value = screens ++ added := by
  induction modes generalizing screens with
  | nil => exact ⟨[], (List.append_nil screens).symm⟩
  | cons mode modes ih =>
    obtain ⟨added, hadded⟩ := ih (declare provider screens mode).value
    rw [declareAll, Noted.value_bind, hadded, declare]
    split
    · exact ⟨added, rfl⟩
    · exact ⟨⟨mode, provider⟩ :: added, List.append_assoc _ _ _⟩

lemma register_of_mem (h : r.provider ∈ c.providers) : (c.register r.provider r.modes).value = (c, 0) := by
  rw [register, if_pos (hasProvider_iff.mpr h)]

lemma register_of_not_mem (h : r.provider ∉ c.providers) :
    (c.register r.provider r.modes).value =
      (⟨c.providers ++ [r.provider], (declareAll r.provider c.screens r.modes).value⟩,
        (declareAll r.provider c.screens r.modes).value.length - c.screens.length) := by
  rw [register, if_neg (mt hasProvider_iff.mp h)]
  rfl

lemma register_extends (c : Catalog) (r : Registration) :
    let registered := (c.register r.provider r.modes).value
    ∃ added, registered.1.screens = c.screens ++ added ∧ registered.2 = added.length := by
  by_cases repeated : r.provider ∈ c.providers
  · rw [register_of_mem repeated]
    exact ⟨[], (List.append_nil c.screens).symm, rfl⟩
  · obtain ⟨added, hadded⟩ := declareAll_extends r.provider c.screens r.modes
    rw [register_of_not_mem repeated, hadded]
    exact ⟨added, rfl, by rw [List.length_append, Nat.add_sub_cancel_left]⟩

lemma filled_concat (rs : List Registration) (r : Registration) :
    filled (rs ++ [r]) = ((filled rs).register r.provider r.modes).value.1 :=
  List.foldl_append

lemma filled_registered (rs : List Registration) : (filled rs).Registered := by
  induction rs using List.reverseRecOn with
  | nil => exact .empty
  | append_singleton rs r ih =>
    rw [filled_concat]
    exact .register r.provider r.modes ih

lemma filled_eq (rs : List Registration) :
    (filled rs).providers = (firstBy Registration.provider rs).map Registration.provider ∧
      (filled rs).screens =
        firstBy Screen.mode ((firstBy Registration.provider rs).flatMap Registration.screens) := by
  induction rs using List.reverseRecOn with
  | nil => exact ⟨rfl, rfl⟩
  | append_singleton rs r ih =>
    obtain ⟨providers, screens⟩ := ih
    have known : r.provider ∈ (filled rs).providers ↔ r.provider ∈ rs.map Registration.provider := by
      rw [providers, mem_map_firstBy]
    rw [filled_concat, firstBy_concat]
    by_cases repeated : r.provider ∈ (filled rs).providers
    · rw [register_of_mem repeated, if_pos (known.mp repeated)]
      exact ⟨providers, screens⟩
    · rw [register_of_not_mem repeated, if_neg (mt known.mpr repeated), providers, screens,
        declareAll_firstBy, List.map_append, List.flatMap_append, List.flatMap_singleton]
      exact ⟨rfl, rfl⟩

/-- Registrations fill the catalog with the first provider of each name and the first declaration of each
mode. One more of them adds its screens at the end and counts them, or changes nothing if its provider is
known. -/
theorem registrations_fill_catalog (rs : List Registration) (r : Registration) :
    FilledBy rs (filled rs) ∧
      let registered := ((filled rs).register r.provider r.modes).value
      registered.1 = filled (rs ++ [r]) ∧
      (∃ added, registered.1.screens = (filled rs).screens ++ added ∧ registered.2 = added.length) ∧
      (r.provider ∈ (filled rs).providers → registered = (filled rs, 0)) := by
  have sound := filled_registered rs
  obtain ⟨providers, screens⟩ := filled_eq rs
  refine ⟨?_, (filled_concat rs r).symm, register_extends (filled rs) r, register_of_mem⟩
  constructor
  case providers => exact providers
  case screens => exact screens
  case providers_nodup =>
    rw [providers]
    exact firstBy_nodup Registration.provider rs
  case modes_nodup => exact sound.modes_nodup
  case owners => exact fun screen hs => hasProvider_iff.mp (sound.hasProvider hs)
  case rotation_nodup => exact rotationOrder_nodup _
  case mem_rotation => exact fun provider => mem_rotationOrder
  case rotation_in_order => exact rotationOrder_pairwise _
  case screen? => exact fun mode screen => sound.screen?_eq_some_iff
  case hasProvider =>
    intro provider
    rw [existsUnique_firstBy, ← providers]
    exact hasProvider_iff
  case firstScreenOf? => exact fun provider screen => firstScreenOf?_eq_some_iff

def clashing : List Registration :=
  [⟨"scores", ["recent", "upcoming", "recent"]⟩, ⟨"mute", []⟩, ⟨"clock", ["upcoming", "time"]⟩,
    ⟨"scores", ["live"]⟩]

theorem clashing_registrations_fill_catalog :
    "scores" ∈ (filled clashing).providers ∧
      ((filled clashing).register "scores" ["live"]).value = (filled clashing, 0) ∧
      (filled clashing).screens = [⟨"recent", "scores"⟩, ⟨"upcoming", "scores"⟩, ⟨"time", "clock"⟩] ∧
      (filled clashing).rotationOrder = ["scores", "clock"] := by
  have known : "scores" ∈ (filled clashing).providers := by decide
  obtain ⟨contents, -, -, repeated⟩ := registrations_fill_catalog clashing ⟨"scores", ["live"]⟩
  exact ⟨known, repeated known, contents.screens.trans (by decide), by decide⟩

end Catalog

end Marquee
