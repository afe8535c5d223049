import Marquee.Proofs.Catalog
import Marquee.Proofs.Time
import Marquee.Scheduler.Command

namespace Marquee

def Names (field : Option String) (name : String) : Prop :=
  field = some name ∧ name ≠ ""

namespace Catalog

/-- The screen of the mode, or else the first screen of the provider. -/
inductive Means (c : Catalog) (r : Request) : Screen → Prop
  | mode {screen : Screen} : Names r.mode screen.mode → screen ∈ c.screens →
      (∀ provider, Names r.provider provider → screen.provider = provider) → Means c r screen
  | provider {screen : Screen} (before after : List Screen) : (∀ mode, ¬ Names r.mode mode) →
      Names r.provider screen.provider → c.screens = before ++ screen :: after →
      (∀ earlier ∈ before, earlier.provider ≠ screen.provider) → Means c r screen

structure Accepts (c : Catalog) (r : Request) : Prop where
  duration : ∀ seconds, r.duration = some seconds → seconds.isFinite ∧ seconds ≤ 604800
  provider : ∀ provider, Names r.provider provider → c.hasProvider provider
  screen : ∃ screen, c.Means r screen

end Catalog

namespace Scheduler

variable {c : Catalog} {r : Request} {screen : Screen}

lemma nonEmpty_eq_some_iff {field : Option String} {name : String} :
    nonEmpty field = some name ↔ Names field name := by
  simp [nonEmpty, Names, Option.filter_eq_some_iff]

lemma nonEmpty_eq_none_iff {field : Option String} :
    nonEmpty field = none ↔ ∀ name, ¬ Names field name := by
  simp [Option.eq_none_iff_forall_ne_some, nonEmpty_eq_some_iff]

lemma checkDuration_ok_iff {duration : Option Float} :
    checkDuration duration = .ok () ↔
      ∀ seconds, duration = some seconds → seconds.isFinite ∧ seconds ≤ 604800 := by
  cases duration with
  | none => exact iff_of_true rfl nofun
  | some seconds =>
    have week : (604800 : Float).isFinite := Span.isFinite_longest
    simp only [checkDuration, Option.some.injEq, forall_eq']
    by_cases finite : seconds.isFinite
    · by_cases long : (604800 : Float) < seconds <;>
        simp [finite, Span.longestSeconds, long, ← Number.not_lt_iff_le finite week]
    · simp [finite]

lemma checkProvider_ok_iff {provider : Option ProviderId} :
    checkProvider c provider = .ok () ↔ ∀ p, provider = some p → c.hasProvider p := by
  cases provider <;> simp [checkProvider]

lemma target_mode_ok_iff (registered : c.Registered) {mode : ModeId} {provider : Option ProviderId} :
    target c (some mode) provider = .ok screen ↔
      screen ∈ c.screens ∧ screen.mode = mode ∧ ∀ p, provider = some p → screen.provider = p := by
  unfold target
  rw [← and_assoc, ← registered.screen?_eq_some_iff]
  dsimp only
  cases c.screen? mode with
  | none => simp
  | some found =>
    cases provider with
    | none => simp
    | some p =>
      by_cases own : found.provider = p
      · simpa [own] using fun same : found = screen => same ▸ own
      · simpa [own] using fun same : found = screen => same ▸ own

lemma target_provider_ok_iff {provider : ProviderId} :
    target c none (some provider) = .ok screen ↔ c.firstScreenOf? provider = some screen := by
  unfold target
  dsimp only
  cases c.firstScreenOf? provider <;> simp

lemma target_ok_iff (registered : c.Registered) :
    target c (nonEmpty r.mode) (nonEmpty r.provider) = .ok screen ↔ c.Means r screen := by
  constructor
  · intro ok
    cases hmode : nonEmpty r.mode with
    | some mode =>
      rw [hmode, target_mode_ok_iff registered] at ok
      obtain ⟨mem, rfl, own⟩ := ok
      exact .mode (nonEmpty_eq_some_iff.mp hmode) mem fun p hp => own p (nonEmpty_eq_some_iff.mpr hp)
    | none =>
      cases hprovider : nonEmpty r.provider with
      | none =>
        rw [hmode, hprovider] at ok
        cases ok
      | some provider =>
        rw [hmode, hprovider, target_provider_ok_iff, Catalog.firstScreenOf?_eq_some_iff] at ok
        obtain ⟨rfl, before, after, split, first⟩ := ok
        exact .provider before after (nonEmpty_eq_none_iff.mp hmode)
          (nonEmpty_eq_some_iff.mp hprovider) split first
  · rintro (⟨named, mem, own⟩ | ⟨before, after, unnamed, named, split, first⟩)
    · rw [nonEmpty_eq_some_iff.mpr named, target_mode_ok_iff registered]
      exact ⟨mem, rfl, fun p hp => own p (nonEmpty_eq_some_iff.mp hp)⟩
    · rw [nonEmpty_eq_none_iff.mpr unnamed, nonEmpty_eq_some_iff.mpr named, target_provider_ok_iff,
        Catalog.firstScreenOf?_eq_some_iff]
      exact ⟨rfl, before, after, split, first⟩

lemma resolveRequest_eq_ok_iff : resolveRequest c r = .ok screen ↔
    checkDuration r.duration = .ok () ∧ checkProvider c (nonEmpty r.provider) = .ok () ∧
      target c (nonEmpty r.mode) (nonEmpty r.provider) = .ok screen := by
  unfold resolveRequest
  cases checkDuration r.duration <;> cases checkProvider c (nonEmpty r.provider) <;>
    simp [bind, Except.bind]

theorem resolveRequest_ok_iff (registered : c.Registered) :
    resolveRequest c r = .ok screen ↔ c.Accepts r ∧ c.Means r screen := by
  rw [resolveRequest_eq_ok_iff, checkDuration_ok_iff, checkProvider_ok_iff, target_ok_iff registered]
  simp only [nonEmpty_eq_some_iff]
  constructor
  · rintro ⟨duration, provider, means⟩
    exact ⟨⟨duration, provider, screen, means⟩, means⟩
  · rintro ⟨accepts, means⟩
    exact ⟨accepts.duration, accepts.provider, means⟩

theorem exists_resolveRequest_ok_iff (registered : c.Registered) :
    (∃ screen, resolveRequest c r = .ok screen) ↔ c.Accepts r := by
  simp only [resolveRequest_ok_iff registered]
  exact ⟨fun ⟨_, accepts, _⟩ => accepts, fun accepts => ⟨_, accepts, accepts.screen.choose_spec⟩⟩

lemma means_of_resolveRequest (registered : c.Registered) (h : resolveRequest c r = .ok screen)
    (other : Screen) : c.Means r other ↔ other = screen := by
  constructor
  · intro means
    have again := (resolveRequest_ok_iff registered).mpr ⟨((resolveRequest_ok_iff registered).mp h).1, means⟩
    exact Except.ok.inj (again.symm.trans h)
  · rintro rfl
    exact ((resolveRequest_ok_iff registered).mp h).2

end Scheduler

end Marquee
