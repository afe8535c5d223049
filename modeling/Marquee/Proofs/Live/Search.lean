import Marquee.Health
import Marquee.Proofs.Catalog.Filling
import Marquee.Proofs.Live

/-! The search for live content: it finds the screen of the first provider in rotation order that qualifies,
and providers that fail or are passed over leave no trace in it. -/

namespace Marquee

def Screen.HasLiveName (screen : Screen) : Prop :=
  screen.mode = "live" ∨ "_live".toList <:+ screen.mode.toList

namespace Live

/-- The screen that a provider shows when it declares these modes: its own one for the first of them that has
one, and else the first of its screens with a live name. -/
inductive LiveScreen (c : Catalog) (provider : ProviderId) (modes : List ModeId) : Screen → Prop
  | declared {screen : Screen} {before after : List ModeId} : screen ∈ c.screens →
      screen.provider = provider → modes = before ++ screen.mode :: after →
      (∀ other ∈ c.screens, other.provider = provider → other.mode ∉ before) →
      LiveScreen c provider modes screen
  | named {screen : Screen} {before after : List Screen} :
      (∀ other ∈ c.screens, other.provider = provider → other.mode ∉ modes) →
      c.screens = before ++ screen :: after → screen.provider = provider → screen.HasLiveName →
      (∀ other ∈ before, other.provider = provider → ¬ other.HasLiveName) →
      LiveScreen c provider modes screen

variable {c : Catalog} {answers answers' : ProviderId → Answers} {barred : ProviderId → Bool}
  {provider : ProviderId} {screen : Screen} {modes : List ModeId}

/-- The provider may take the display, and this is the screen that it would show. -/
structure Qualifies (c : Catalog) (answers : ProviderId → Answers) (barred : ProviderId → Bool)
    (provider : ProviderId) (screen : Screen) : Prop where
  owner : ∃ own ∈ c.screens, own.provider = provider
  admitted : barred provider = false
  capable : (answers provider).capabilities.livePriority
  priority : (answers provider).livePriority = .ok true
  content : (answers provider).liveContent = .ok true
  resolves : ∃ modes, (answers provider).liveModes = .ok modes ∧ LiveScreen c provider modes screen

def Silent (answers : ProviderId → Answers) (barred : ProviderId → Bool) (provider : ProviderId) : Prop :=
  barred provider ∨ (∃ e, (answers provider).livePriority = .error e) ∨
    (∃ e, (answers provider).liveContent = .error e) ∨ ∃ e, (answers provider).liveModes = .error e

def offer? (c : Catalog) (answers : ProviderId → Answers) (barred : ProviderId → Bool)
    (provider : ProviderId) : Option Screen :=
  if barred provider || !c.hasProvider provider then none
  else (screenOf? c provider (answers provider)).value

lemma isLiveName_iff : isLiveName screen.mode ↔ screen.HasLiveName := by
  rw [isLiveName, Bool.or_eq_true, decide_eq_true_iff, String.endsWith_eq_endsWith_toSlice,
    String.Slice.endsWith_string_iff, String.copy_toSlice]
  rfl

lemma ownScreen?_eq_some_iff (registered : c.Registered) {mode : ModeId} :
    ownScreen? c provider mode = some screen ↔
      screen ∈ c.screens ∧ screen.provider = provider ∧ screen.mode = mode := by
  rw [ownScreen?, Option.filter_eq_some_iff, registered.screen?_eq_some_iff, decide_eq_true_iff]
  tauto

lemma ownScreen?_eq_none_iff (registered : c.Registered) {mode : ModeId} :
    ownScreen? c provider mode = none ↔
      ∀ other ∈ c.screens, other.provider = provider → other.mode ≠ mode := by
  rw [Option.eq_none_iff_forall_ne_some]
  simp only [ne_eq, ownScreen?_eq_some_iff registered, not_and]

lemma declared_eq_none_iff (registered : c.Registered) :
    modes.findSome? (ownScreen? c provider) = none ↔
      ∀ other ∈ c.screens, other.provider = provider → other.mode ∉ modes := by
  simp only [List.findSome?_eq_none_iff, ownScreen?_eq_none_iff registered]
  exact ⟨fun h other mem own declared => h _ declared other mem own rfl,
    fun h mode declared other mem own same => h other mem own (same ▸ declared)⟩

lemma declared_eq_some_iff (registered : c.Registered) :
    modes.findSome? (ownScreen? c provider) = some screen ↔ ∃ before after,
      screen ∈ c.screens ∧ screen.provider = provider ∧ modes = before ++ screen.mode :: after ∧
      ∀ other ∈ c.screens, other.provider = provider → other.mode ∉ before := by
  rw [List.findSome?_eq_some_iff]
  constructor
  · rintro ⟨before, mode, after, split, own, none⟩
    obtain ⟨mem, owner, rfl⟩ := (ownScreen?_eq_some_iff registered).mp own
    exact ⟨before, after, mem, owner, split,
      (declared_eq_none_iff registered).mp (List.findSome?_eq_none_iff.mpr none)⟩
  · rintro ⟨before, after, mem, owner, split, none⟩
    exact ⟨before, screen.mode, after, split, (ownScreen?_eq_some_iff registered).mpr ⟨mem, owner, rfl⟩,
      List.findSome?_eq_none_iff.mp ((declared_eq_none_iff registered).mpr none)⟩

lemma named_eq_some_iff :
    (c.screens.find? fun s => s.provider = provider && isLiveName s.mode) = some screen ↔
      (screen.provider = provider ∧ screen.HasLiveName) ∧ ∃ before after,
        c.screens = before ++ screen :: after ∧
        ∀ other ∈ before, other.provider = provider → ¬ other.HasLiveName := by
  have unnamed (other : Screen) : (!(decide (other.provider = provider) && isLiveName other.mode)) = true ↔
      (other.provider = provider → ¬ other.HasLiveName) := by
    rw [← isLiveName_iff]
    simp [imp_iff_not_or]
  simp only [List.find?_eq_some_iff_append, Bool.and_eq_true, decide_eq_true_eq, isLiveName_iff, unnamed]

lemma chosen?_eq_some_iff (registered : c.Registered) :
    chosen? c provider modes = some screen ↔ LiveScreen c provider modes screen := by
  rw [chosen?, Option.or_eq_some_iff, declared_eq_some_iff registered, declared_eq_none_iff registered,
    named_eq_some_iff]
  constructor
  · rintro (⟨before, after, mem, own, split, none⟩ | ⟨none, ⟨own, live⟩, before, after, split, first⟩)
    · exact .declared mem own split none
    · exact .named none split own live first
  · rintro (⟨mem, own, split, none⟩ | ⟨none, split, own, live, first⟩)
    · exact .inl ⟨_, _, mem, own, split, none⟩
    · exact .inr ⟨none, ⟨own, live⟩, _, _, split, first⟩

lemma qualifies_iff (registered : c.Registered) : Qualifies c answers barred provider screen ↔
    provider ∈ c.rotationOrder ∧ offer? c answers barred provider = some screen := by
  have known (h : provider ∈ c.rotationOrder) : c.hasProvider provider := by
    obtain ⟨own, mem, rfl⟩ := Catalog.mem_rotationOrder.mp h
    exact registered.hasProvider mem
  rw [offer?]
  constructor
  · rintro ⟨owner, admitted, capable, priority, content, modes, hmodes, live⟩
    have listed := Catalog.mem_rotationOrder.mpr owner
    refine ⟨listed, ?_⟩
    rw [if_neg (by simp [admitted, known listed]), screenOf?_eq_some_iff, isLive_iff]
    exact ⟨⟨capable, priority, content⟩, modes, hmodes, (chosen?_eq_some_iff registered).mpr live⟩
  · rintro ⟨listed, found⟩
    split at found
    · cases found
    next asked =>
      obtain ⟨live, modes, hmodes, chosen⟩ := screenOf?_eq_some_iff.mp found
      obtain ⟨capable, priority, content⟩ := isLive_iff.mp live
      exact {
        owner := Catalog.mem_rotationOrder.mp listed
        admitted := by simp_all
        capable
        priority
        content
        resolves := ⟨modes, hmodes, (chosen?_eq_some_iff registered).mp chosen⟩ }

lemma Silent.offer? (h : Silent answers barred provider) : offer? c answers barred provider = none := by
  rw [Live.offer?]
  split
  · rfl
  next asked =>
    refine Option.eq_none_iff_forall_ne_some.mpr fun screen found => ?_
    obtain ⟨live, modes, hmodes, -⟩ := screenOf?_eq_some_iff.mp found
    obtain ⟨-, priority, content⟩ := isLive_iff.mp live
    rcases h with passed | ⟨e, broken⟩ | ⟨e, broken⟩ | ⟨e, broken⟩
    · simp [passed] at asked
    · cases priority.symm.trans broken
    · cases content.symm.trans broken
    · cases hmodes.symm.trans broken

lemma search_eq (providers : List ProviderId) :
    (search c answers barred providers).value = providers.findSome? (offer? c answers barred) := by
  induction providers with
  | nil => rfl
  | cons provider rest ih =>
    rw [search, List.findSome?_cons, offer?]
    split
    · exact ih
    · rw [Noted.value_bind]
      cases (screenOf? c provider (answers provider)).value with
      | some screen => rfl
      | none => exact ih

lemma find_eq : (find c answers barred).value = c.rotationOrder.findSome? (offer? c answers barred) :=
  search_eq c.rotationOrder

lemma find_eq_some_iff (registered : c.Registered) : (find c answers barred).value = some screen ↔
    ∃ provider, Qualifies c answers barred provider screen ∧
      ∀ rival other, Qualifies c answers barred rival other →
        ¬ Catalog.Precedes c.screens rival provider := by
  rw [find_eq, List.findSome?_eq_some_iff]
  have order := Catalog.rotationOrder_pairwise c
  constructor
  · rintro ⟨front, provider, back, split, offered, silent⟩
    have listed : provider ∈ c.rotationOrder := by simp [split]
    refine ⟨provider, (qualifies_iff registered).mpr ⟨listed, offered⟩, fun rival other qualified before => ?_⟩
    obtain ⟨known, offer⟩ := (qualifies_iff registered).mp qualified
    rw [split] at known order
    rcases List.mem_append.mp known with ahead | behind
    · cases (silent rival ahead).symm.trans offer
    · rcases List.mem_cons.mp behind with rfl | behind
      · exact Nat.lt_irrefl _ before
      · have after := List.rel_of_pairwise_cons (List.pairwise_append.mp order).2.1 behind
        exact Nat.lt_asymm before after
  · rintro ⟨provider, qualified, first⟩
    obtain ⟨listed, offer⟩ := (qualifies_iff registered).mp qualified
    obtain ⟨front, back, split⟩ := List.append_of_mem listed
    refine ⟨front, provider, back, split, offer, fun rival ahead => ?_⟩
    refine Option.eq_none_iff_forall_ne_some.mpr fun other found => ?_
    have known : rival ∈ c.rotationOrder := by simp [split, ahead]
    rw [split] at order
    exact first rival other ((qualifies_iff registered).mpr ⟨known, found⟩)
      ((List.pairwise_append.mp order).2.2 rival ahead provider List.mem_cons_self)

lemma find_eq_none_iff (registered : c.Registered) : (find c answers barred).value = none ↔
    ∀ provider screen, ¬ Qualifies c answers barred provider screen := by
  rw [find_eq, List.findSome?_eq_none_iff]
  simp only [qualifies_iff registered, not_and, Option.eq_none_iff_forall_ne_some]
  exact ⟨fun h provider screen listed => h provider listed screen,
    fun h provider listed screen => h provider screen listed⟩

lemma Silent.find (h : Silent answers barred provider)
    (others : ∀ other, other ≠ provider → answers' other = answers other) :
    (find c answers' fun other => other = provider || barred other).value =
      (find c answers barred).value := by
  have offers : Live.offer? c answers' (fun other => other = provider || barred other) =
      Live.offer? c answers barred := by
    funext other
    by_cases same : other = provider
    · rw [same, h.offer?, Live.offer?, if_pos (by simp)]
    · rw [Live.offer?, Live.offer?, others other same]
      simp [same]
  rw [find_eq, find_eq, offers]

/-- Live content is found for the first provider in rotation order that qualifies, and for none only if nobody
does. One that is passed over or fails to answer is as good as not there, whatever it would answer. -/
theorem find_first_qualified {γ : Type} [HealthGate γ] {c : Catalog} (registered : c.Registered)
    (answers : ProviderId → Answers) (gate : γ) (now : Instant) (excluded : List ProviderId) :
    let barred provider := excluded.contains provider || HealthGate.skips gate now provider
    let found := (find c answers barred).value
    (∀ screen, found = some screen ↔ ∃ provider, Qualifies c answers barred provider screen ∧
      ∀ rival other, Qualifies c answers barred rival other →
        ¬ Catalog.Precedes c.screens rival provider) ∧
    (found = none ↔ ∀ provider screen, ¬ Qualifies c answers barred provider screen) ∧
    (∀ provider answers', Silent answers barred provider →
      (∀ other, other ≠ provider → answers' other = answers other) →
      (find c answers' fun other => other = provider || barred other).value = found) := by
  intro barred found
  refine ⟨fun screen => ?_, ?_, fun provider answers' silent others => ?_⟩
  · exact find_eq_some_iff registered
  · exact find_eq_none_iff registered
  · exact silent.find others

def matchday : Catalog :=
  Catalog.filled [⟨"nhl", ["nhl_live"]⟩, ⟨"nfl", ["nfl_live", "nba_game"]⟩,
    ⟨"nba", ["nba_recent", "nba_live"]⟩, ⟨"mlb", ["mlb_live"]⟩]

def matchdayAnswers (provider : ProviderId) : Answers where
  capabilities := { livePriority := true }
  livePriority := if provider = "nfl" then .error (.query "timeout") else .ok true
  liveContent := .ok true
  liveModes := .ok ["nba_game", "nhl_live", "nfl_live", "mlb_live"]

theorem matchday_goes_to_third :
    let barred provider := ["nhl"].contains provider || HealthGate.skips AlwaysHealthy.mk 0 provider
    matchday.Registered ∧ Silent matchdayAnswers barred "nfl" ∧
      (∃ provider, Qualifies matchday matchdayAnswers barred provider ⟨"nba_live", "nba"⟩) ∧
      (find matchday matchdayAnswers fun other => other = "nfl" || barred other).value =
        some ⟨"nba_live", "nba"⟩ := by
  intro barred
  have registered : matchday.Registered := Catalog.filled_registered _
  obtain ⟨first, -, others⟩ := find_first_qualified registered matchdayAnswers AlwaysHealthy.mk 0 ["nhl"]
  have found : (find matchday matchdayAnswers barred).value = some ⟨"nba_live", "nba"⟩ := by decide +kernel
  have silent : Silent matchdayAnswers barred "nfl" := .inr (.inl ⟨_, rfl⟩)
  obtain ⟨provider, qualifies, -⟩ := (first _).mp found
  exact ⟨registered, silent, ⟨provider, qualifies⟩,
    (others "nfl" matchdayAnswers silent fun _ _ => rfl).trans found⟩

end Live

end Marquee
