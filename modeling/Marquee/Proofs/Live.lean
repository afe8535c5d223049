import Mathlib.Tactic.Lemma
import Marquee.Live

namespace Marquee.Live

variable {c : Catalog} {provider : ProviderId} {a : Answers} {screen : Screen}

lemma affirmed_iff {question : LiveQuestion} {answer : Except ProviderError Bool} :
    (affirmed question provider answer).value ↔ answer = .ok true := by
  cases answer <;> simp [affirmed]

lemma isLive_iff : (isLive provider a).value ↔
    a.capabilities.livePriority ∧ a.livePriority = .ok true ∧ a.liveContent = .ok true := by
  have priority : (affirmed .priority provider a.livePriority).value ↔ a.livePriority = .ok true :=
    affirmed_iff
  have content : (affirmed .content provider a.liveContent).value ↔ a.liveContent = .ok true :=
    affirmed_iff
  rw [isLive]
  cases hp : a.capabilities.livePriority with
  | false => simp
  | true =>
    by_cases hq : (affirmed .priority provider a.livePriority).value <;>
      simp [hq, ← priority, ← content]

lemma chosen?_provider {modes : List ModeId} (h : chosen? c provider modes = some screen) :
    screen.provider = provider := by
  rcases Option.or_eq_some_iff.mp h with found | ⟨-, found⟩
  · obtain ⟨mode, -, own⟩ := List.exists_of_findSome?_eq_some found
    simpa using (Option.filter_eq_some_iff.mp own).2
  · have named := List.find?_some found
    simp only [Bool.and_eq_true, decide_eq_true_eq] at named
    exact named.1

lemma screenOf?_provider (h : (screenOf? c provider a).value = some screen) :
    screen.provider = provider := by
  rw [screenOf?] at h
  rw [Noted.value_bind] at h
  split at h
  · split at h
    · exact chosen?_provider h
    · cases h
  · cases h

lemma search_found {answers : ProviderId → Answers} {barred : ProviderId → Bool}
    {providers : List ProviderId}
    (h : (search c answers barred providers).value = some screen) :
    screen.provider ∈ providers ∧ barred screen.provider = false ∧
      c.hasProvider screen.provider := by
  induction providers with
  | nil => cases h
  | cons provider rest ih =>
    rw [search] at h
    split at h
    · exact ⟨.tail _ (ih h).1, (ih h).2⟩
    next kept =>
      rw [Noted.value_bind] at h
      split at h
      next found =>
        cases h
        rw [screenOf?_provider found]
        exact ⟨.head _, by simpa using kept⟩
      · exact ⟨.tail _ (ih h).1, (ih h).2⟩

lemma chosen?_mem {modes : List ModeId} (h : chosen? c provider modes = some screen) :
    screen ∈ c.screens := by
  rcases Option.or_eq_some_iff.mp h with found | ⟨-, found⟩
  · obtain ⟨mode, -, own⟩ := List.exists_of_findSome?_eq_some found
    exact List.mem_of_find?_eq_some (Option.filter_eq_some_iff.mp own).1
  · exact List.mem_of_find?_eq_some found

lemma screenOf?_mem (h : (screenOf? c provider a).value = some screen) : screen ∈ c.screens := by
  rw [screenOf?, Noted.value_bind] at h
  split at h
  · split at h
    · exact chosen?_mem h
    · cases h
  · cases h

lemma search_mem {answers : ProviderId → Answers} {barred : ProviderId → Bool}
    {providers : List ProviderId}
    (h : (search c answers barred providers).value = some screen) : screen ∈ c.screens := by
  induction providers with
  | nil => cases h
  | cons provider rest ih =>
    rw [search] at h
    split at h
    · exact ih h
    · rw [Noted.value_bind] at h
      split at h
      next found =>
        cases h
        exact screenOf?_mem found
      · exact ih h

lemma screenOf?_eq_some_iff : (screenOf? c provider a).value = some screen ↔
    (isLive provider a).value ∧ ∃ modes, a.liveModes = .ok modes ∧ chosen? c provider modes = some screen := by
  rw [screenOf?, Noted.value_bind]
  cases live : (isLive provider a).value with
  | false => simp
  | true =>
    cases a.liveModes with
    | error e => simp
    | ok modes => simp

lemma search_eq_none_iff {answers : ProviderId → Answers} {barred : ProviderId → Bool}
    {providers : List ProviderId} : (search c answers barred providers).value = none ↔
      ∀ provider ∈ providers, barred provider = false → c.hasProvider provider →
        (screenOf? c provider (answers provider)).value = none := by
  induction providers with
  | nil => simp [search]
  | cons first rest ih =>
    rw [List.forall_mem_cons, ← ih, search]
    split
    next passed =>
      have vacuous : barred first = false → ¬ c.hasProvider first := by
        intro kept known
        simp [kept, known] at passed
      exact ⟨fun none => ⟨fun kept known => absurd known (vacuous kept), none⟩, And.right⟩
    next asked =>
      have kept : barred first = false ∧ c.hasProvider first := by simp_all
      rw [Noted.value_bind]
      cases found : (screenOf? c first (answers first)).value with
      | some screen => simp [kept]
      | none => simp

end Marquee.Live
