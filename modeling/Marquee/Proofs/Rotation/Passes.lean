import Mathlib.Data.List.Induction
import Marquee.Proofs.Rotation.Advance

/-! One pass of a rotation: every screen has its turn, in order and once, apart from those of a provider
that was set aside in this pass before they were reached. -/

namespace Marquee.Rotation

inductive Call
  | skip (provider : ProviderId)
  | advance
  | advancePastProvider
  deriving DecidableEq, Repr

def Call.goesOn : Call → Bool
  | .skip _ => false
  | _ => true

variable {r start : Rotation} {call : Call} {calls : List Call} {provider : ProviderId}

def after (r : Rotation) : Call → Rotation
  | .skip provider => r.skip provider
  | .advance => r.advance
  | .advancePastProvider => r.advancePastProvider

def afterAll (r : Rotation) (calls : List Call) : Rotation :=
  calls.foldl after r

def setAside (r : Rotation) : Call → Rotation
  | .skip provider => r.skip provider
  | .advance => r
  | .advancePastProvider => r.current?.elim r fun screen => r.skip screen.provider

def SetsAside (r : Rotation) (provider : ProviderId) : Call → Prop
  | .skip other => other = provider
  | .advance => False
  | .advancePastProvider => r.current?.map Screen.provider = some provider

def lands (r : Rotation) (call : Call) : Bool :=
  call.goesOn && !r.screens.isEmpty

def landings (r : Rotation) : List Call → List Nat
  | [] => []
  | call :: calls =>
    if r.lands call then (r.after call).index :: (r.after call).landings calls
    else (r.after call).landings calls

def AsideWithin (r : Rotation) (calls : List Call) (provider : ProviderId) : Prop :=
  ∃ earlier call later, calls = earlier ++ call :: later ∧
    (r.afterAll earlier).SetsAside provider call

/-- One of the calls has gone past this index, or on to the next pass from before it. By then its
provider was set aside. -/
def PassedOver (r : Rotation) (calls : List Call) (index : Nat) (provider : ProviderId) : Prop :=
  ∃ earlier call later, calls = earlier ++ call :: later ∧
    (r.afterAll earlier).index < index ∧
    (index < (r.afterAll (earlier ++ [call])).index ∨
      (r.afterAll earlier).passes < (r.afterAll (earlier ++ [call])).passes) ∧
    r.AsideWithin (earlier ++ [call]) provider

def Begins (r : Rotation) (calls : List Call) : Prop :=
  calls = [] ∨ ∃ earlier call, calls = earlier ++ [call] ∧
    (r.afterAll earlier).passes < (r.afterAll calls).passes

structure Pass (start : Rotation) (within : List Call) (last : Call) : Prop where
  same : (start.afterAll within).passes = start.passes
  ends : start.passes < (start.afterAll (within ++ [last])).passes

/-- Nothing is shown twice in a pass, and nothing is left out without cause. -/
structure FairPass (start : Rotation) (within : List Call) (last : Call) : Prop where
  first : start.index = 0
  fresh : start.skipped = []
  sorted : (0 :: start.landings within).Pairwise (· < ·)
  leftOut : ∀ index screen, start.screens[index]? = some screen → index ∉ 0 :: start.landings within →
    start.PassedOver (within ++ [last]) index screen.provider

@[simp] lemma afterAll_nil (r : Rotation) : r.afterAll [] = r := rfl

@[simp] lemma afterAll_append (r : Rotation) (calls later : List Call) :
    r.afterAll (calls ++ later) = (r.afterAll calls).afterAll later :=
  List.foldl_append

@[simp] lemma afterAll_singleton (r : Rotation) (call : Call) : r.afterAll [call] = r.after call := rfl

lemma landings_append (r : Rotation) (calls later : List Call) :
    r.landings (calls ++ later) = r.landings calls ++ (r.afterAll calls).landings later := by
  induction calls generalizing r with
  | nil => rfl
  | cons call calls ih =>
    rw [List.cons_append, landings, landings, ih]
    split <;> rfl

lemma landings_concat (r : Rotation) (calls : List Call) (call : Call) :
    r.landings (calls ++ [call]) = r.landings calls ++
      if (r.afterAll calls).lands call then [((r.afterAll calls).after call).index] else [] := by
  rw [landings_append]
  rfl

@[simp] lemma screens_after (r : Rotation) (call : Call) : (r.after call).screens = r.screens := by
  cases call with
  | skip provider => exact screens_skip r provider
  | advance => exact screens_advance r
  | advancePastProvider =>
    rw [after, advancePastProvider]
    split <;> simp

lemma screens_afterAll (r : Rotation) (calls : List Call) : (r.afterAll calls).screens = r.screens := by
  induction calls generalizing r with
  | nil => rfl
  | cons call calls ih => exact (ih (r.after call)).trans (screens_after r call)

section SetAside

variable (r : Rotation) (call : Call)

@[simp] lemma screens_setAside : (r.setAside call).screens = r.screens := by
  cases call with
  | skip | advance => simp [setAside]
  | advancePastProvider => cases hc : r.current? <;> simp [setAside, hc]

@[simp] lemma index_setAside : (r.setAside call).index = r.index := by
  cases call with
  | skip | advance => simp [setAside]
  | advancePastProvider => cases hc : r.current? <;> simp [setAside, hc]

@[simp] lemma passes_setAside : (r.setAside call).passes = r.passes := by
  cases call with
  | skip | advance => simp [setAside]
  | advancePastProvider => cases hc : r.current? <;> simp [setAside, hc]

variable {r call}

lemma isSkipped_setAside_iff :
    (r.setAside call).isSkipped provider ↔ r.isSkipped provider ∨ r.SetsAside provider call := by
  cases call with
  | skip other => exact isSkipped_skip_iff
  | advance => simp [setAside, SetsAside]
  | advancePastProvider => cases hc : r.current? <;> simp [setAside, SetsAside, hc, isSkipped_skip_iff]

lemma after_of_goesOn (h : call.goesOn) : r.after call = (r.setAside call).advance := by
  cases call with
  | skip => cases h
  | advance => rfl
  | advancePastProvider =>
    rw [after, advancePastProvider, setAside]
    cases r.current? <;> rfl

lemma after_of_not_lands (h : r.lands call = false) : r.after call = r.setAside call := by
  cases hgo : call.goesOn with
  | false =>
    cases call with
    | skip => rfl
    | advance | advancePastProvider => cases hgo
  | true =>
    have hnil : r.screens.isEmpty := by simpa [lands, hgo] using h
    rw [after_of_goesOn hgo, advance, screens_setAside, if_pos hnil]

end SetAside

inductive Went (r : Rotation) (call : Call) (r' : Rotation) : Prop
  | stood : r.lands call = false → r'.index = r.index → r'.passes = r.passes →
      (∀ provider, r'.isSkipped provider → (r.setAside call).isSkipped provider) → Went r call r'
  | wentOn : r.lands call → r.index < r'.index → r'.passes = r.passes → r'.Open r'.index →
      (∀ provider, r'.isSkipped provider → (r.setAside call).isSkipped provider) →
      (∀ k, r.index < k → k < r'.index → ¬ (r.setAside call).Open k) → Went r call r'
  | wentRound : r.lands call → r'.index = 0 → r'.passes = r.passes + 1 → r'.skipped = [] →
      (∀ k, r.index < k → ¬ (r.setAside call).Open k) → Went r call r'

lemma Placed.after (h : r.Placed) (call : Call) : (r.after call).Placed := by
  cases call with
  | skip provider => exact h.skip provider
  | advance => exact h.advance
  | advancePastProvider =>
    rw [Rotation.after, advancePastProvider]
    split
    next screen _ => exact (h.skip screen.provider).advance
    next => exact h.advance

lemma Placed.afterAll (h : r.Placed) (calls : List Call) : (r.afterAll calls).Placed := by
  induction calls generalizing r with
  | nil => exact h
  | cons call calls ih => exact ih (h.after call)

lemma after_went (h : r.Placed) (call : Call) : Went r call (r.after call) := by
  cases lands : r.lands call with
  | false =>
    rw [after_of_not_lands lands]
    exact .stood lands (index_setAside r call) (passes_setAside r call) fun _ => id
  | true =>
    obtain ⟨goesOn, hne⟩ : call.goesOn ∧ r.screens ≠ [] := by simpa [Rotation.lands] using lands
    have hlt : (r.setAside call).index < (r.setAside call).screens.length := by
      simpa using h hne
    rw [after_of_goesOn goesOn]
    rcases advance_spec hlt with ⟨index, next, isOpen, between, hadv⟩ | ⟨none, hadv⟩
    · rw [hadv]
      rw [index_setAside] at next between
      exact .wentOn lands next (passes_setAside r call) isOpen (fun _ => id) between
    · rw [hadv]
      rw [index_setAside] at none
      exact .wentRound lands rfl (congrArg (· + 1) (passes_setAside r call)) rfl none

lemma Went.passes_le {r' : Rotation} (h : Went r call r') : r.passes ≤ r'.passes := by
  cases h <;> omega

lemma passes_le_afterAll (h : r.Placed) (calls : List Call) : r.passes ≤ (r.afterAll calls).passes := by
  induction calls generalizing r with
  | nil => exact Nat.le_refl _
  | cons call calls ih => exact Nat.le_trans (after_went h call).passes_le (ih (h.after call))

lemma AsideWithin.append (h : r.AsideWithin calls provider) (more : List Call) :
    r.AsideWithin (calls ++ more) provider := by
  obtain ⟨earlier, call, later, rfl, aside⟩ := h
  exact ⟨earlier, call, later ++ more, by simp, aside⟩

lemma PassedOver.append {index : Nat} (h : r.PassedOver calls index provider) (more : List Call) :
    r.PassedOver (calls ++ more) index provider := by
  obtain ⟨earlier, call, later, rfl, before, past, aside⟩ := h
  exact ⟨earlier, call, later ++ more, by simp, before, past, aside⟩

structure Underway (start : Rotation) (calls : List Call) : Prop where
  sorted : (0 :: start.landings calls).Pairwise (· < ·)
  le : ∀ index ∈ 0 :: start.landings calls, index ≤ (start.afterAll calls).index
  leftOut : ∀ index screen, index ≤ (start.afterAll calls).index → start.screens[index]? = some screen →
    index ∉ 0 :: start.landings calls → start.PassedOver calls index screen.provider
  aside : ∀ provider, (start.afterAll calls).isSkipped provider → start.AsideWithin calls provider

lemma Underway.setAside (h : Underway start calls) (call : Call) {provider : ProviderId}
    (hs : ((start.afterAll calls).setAside call).isSkipped provider) :
    start.AsideWithin (calls ++ [call]) provider := by
  rcases isSkipped_setAside_iff.mp hs with before | now
  · exact (h.aside provider before).append [call]
  · exact ⟨calls, call, [], rfl, now⟩

lemma Underway.not_open (h : Underway start calls) {call : Call} {index : Nat} {screen : Screen}
    (hs : start.screens[index]? = some screen)
    (closed : ¬ ((start.afterAll calls).setAside call).Open index) :
    start.AsideWithin (calls ++ [call]) screen.provider := by
  refine h.setAside call ?_
  by_contra hkept
  exact closed ⟨screen, by simpa [screens_afterAll] using hs, by simpa using hkept⟩

lemma underway_nil (hi : start.index = 0) (hs : start.skipped = []) : Underway start [] := by
  refine ⟨by simp [landings], by simp [landings], fun index screen le _ out => ?_, ?_⟩
  · rw [afterAll_nil, hi] at le
    exact absurd (List.mem_cons.mpr (.inl (Nat.le_zero.mp le))) out
  · intro provider skipped
    simp [isSkipped, hs] at skipped

lemma Underway.step (h : Underway start calls) (placed : start.Placed)
    (same : (start.afterAll (calls ++ [call])).passes = (start.afterAll calls).passes) :
    Underway start (calls ++ [call]) := by
  rw [afterAll_append, afterAll_singleton] at same
  have went := after_went (placed.afterAll calls) call
  cases went with
  | stood lands index _ skipped =>
    have landings : start.landings (calls ++ [call]) = start.landings calls := by
      simp [landings_concat, lands]
    refine ⟨?_, ?_, ?_, ?_⟩
    · rw [landings]
      exact h.sorted
    · rw [landings, afterAll_append, afterAll_singleton, index]
      exact h.le
    · rw [landings, afterAll_append, afterAll_singleton, index]
      exact fun k screen le hk out => (h.leftOut k screen le hk out).append [call]
    · rw [afterAll_append]
      exact fun provider hp => h.setAside call (skipped provider hp)
  | wentOn lands index _ _ skipped between =>
    have landings : start.landings (calls ++ [call]) =
        start.landings calls ++ [((start.afterAll calls).after call).index] := by
      simp [landings_concat, lands]
    refine ⟨?_, ?_, ?_, ?_⟩
    · rw [landings, ← List.cons_append, List.pairwise_append]
      refine ⟨h.sorted, List.pairwise_singleton _ _, fun k hk k' hk' => ?_⟩
      rw [List.mem_singleton.mp hk']
      exact Nat.lt_of_le_of_lt (h.le k hk) index
    · rw [landings, ← List.cons_append, afterAll_append, afterAll_singleton]
      intro k hk
      rcases List.mem_append.mp hk with before | now
      · exact Nat.le_trans (h.le k before) (Nat.le_of_lt index)
      · exact Nat.le_of_eq (List.mem_singleton.mp now)
    · rw [landings, ← List.cons_append, afterAll_append, afterAll_singleton]
      intro k screen le hk out
      rw [List.mem_append, not_or, List.mem_singleton] at out
      -- What this call went past lies between the old index and the new one.
      rcases Nat.lt_or_ge (start.afterAll calls).index k with past | upTo
      · have before : k < ((start.afterAll calls).after call).index := by omega
        exact ⟨calls, call, [], rfl, past, .inl (by simpa using before),
          h.not_open hk (between k past before)⟩
      · exact (h.leftOut k screen upTo hk out.1).append [call]
    · rw [afterAll_append]
      exact fun provider hp => h.setAside call (skipped provider hp)
  | wentRound _ _ passes => omega

lemma underway (hi : start.index = 0) (hs : start.skipped = []) (placed : start.Placed)
    (same : (start.afterAll calls).passes = start.passes) : Underway start calls := by
  induction calls using List.reverseRecOn with
  | nil => exact underway_nil hi hs
  | append_singleton calls call ih =>
    have upTo := passes_le_afterAll placed calls
    have last := (after_went (placed.afterAll calls) call).passes_le
    rw [afterAll_append, afterAll_singleton] at same
    have before : (start.afterAll calls).passes = start.passes := by omega
    exact (ih before).step placed (by rw [afterAll_append, afterAll_singleton]; omega)

lemma Pass.fair {within : List Call} {last : Call} (h : start.Pass within last) (hi : start.index = 0)
    (hs : start.skipped = []) (placed : start.Placed) : start.FairPass within last := by
  have under := underway hi hs placed h.same
  refine ⟨hi, hs, under.sorted, fun index screen hscreen out => ?_⟩
  have ends := h.ends
  rw [afterAll_append, afterAll_singleton, ← h.same] at ends
  -- The last call answers for everything behind the index that the pass had come to.
  rcases Nat.lt_or_ge (start.afterAll within).index index with past | upTo
  · cases after_went (placed.afterAll within) last with
    | stood _ _ passes | wentOn _ _ passes => omega
    | wentRound _ _ _ _ closed =>
      exact ⟨within, last, [], rfl, past, .inr (by simpa using ends),
        under.not_open hscreen (closed index past)⟩
  · exact (under.leftOut index screen upTo hscreen out).append [last]

/-- Rotation lands on screens whose providers are not set aside, a new pass begins at the first screen
with nobody set aside, and in each pass that is completed every screen has its turn in order and once,
unless its provider was set aside in the same pass before rotation went past it. -/
theorem passes_are_fair (r : Rotation) (hi : r.index = 0) (hs : r.skipped = []) :
    (∀ calls call, (r.afterAll calls).lands call →
      ∃ screen, (r.afterAll (calls ++ [call])).current? = some screen ∧
        (r.afterAll (calls ++ [call])).isSkipped screen.provider = false) ∧
    (∀ calls call, (r.afterAll (calls ++ [call])).passes ≠ (r.afterAll calls).passes →
      (r.afterAll (calls ++ [call])).passes = (r.afterAll calls).passes + 1 ∧
        (r.afterAll calls).lands call ∧
        (r.afterAll (calls ++ [call])).index = 0 ∧ (r.afterAll (calls ++ [call])).skipped = []) ∧
    ∀ before within last, r.Begins before → (r.afterAll before).Pass within last →
      (r.afterAll before).FairPass within last := by
  have placed : r.Placed := fun hne => hi ▸ List.length_pos_iff.mpr hne
  have grown : ∀ calls call, (r.afterAll (calls ++ [call])).passes ≠ (r.afterAll calls).passes →
      (r.afterAll (calls ++ [call])).passes = (r.afterAll calls).passes + 1 ∧
        (r.afterAll calls).lands call ∧
        (r.afterAll (calls ++ [call])).index = 0 ∧ (r.afterAll (calls ++ [call])).skipped = [] := by
    intro calls call grew
    rw [afterAll_append, afterAll_singleton] at grew ⊢
    cases after_went (placed.afterAll calls) call with
    | stood _ _ passes | wentOn _ _ passes => exact absurd passes grew
    | wentRound lands index passes skipped => exact ⟨passes, lands, index, skipped⟩
  refine ⟨fun calls call lands => ?_, grown, fun before within last begins pass => ?_⟩
  · rw [afterAll_append, afterAll_singleton]
    cases after_went (placed.afterAll calls) call with
    | stood idle =>
      rw [idle] at lands
      cases lands
    | wentOn _ _ _ isOpen => exact isOpen
    | wentRound _ index _ skipped =>
      have hne : r.screens ≠ [] := by simpa [screens_afterAll] using (Bool.and_eq_true_iff.mp lands).2
      obtain ⟨screen, first⟩ : ∃ screen, r.screens[0]? = some screen :=
        ⟨_, List.getElem?_eq_getElem (List.length_pos_iff.mpr hne)⟩
      exact ⟨screen, by simpa [current?, index, screens_afterAll] using first, by simp [isSkipped, skipped]⟩
  · rcases begins with rfl | ⟨earlier, call, rfl, grew⟩
    · exact pass.fair hi hs placed
    · obtain ⟨-, -, index, skipped⟩ := grown earlier call (Nat.ne_of_gt grew)
      exact pass.fair index skipped (placed.afterAll _)

def fourScreens : Rotation where
  screens := [⟨"a1", "a"⟩, ⟨"a2", "a"⟩, ⟨"b", "b"⟩, ⟨"c", "c"⟩]

theorem second_pass_is_fair :
    fourScreens.landings [.advancePastProvider, .skip "c", .advance] = [2, 0] ∧
    (fourScreens.afterAll [.advancePastProvider, .skip "c", .advance]).landings
      [.advance, .skip "b", .advance] = [1, 3] ∧
    (fourScreens.afterAll [.advancePastProvider, .skip "c", .advance]).PassedOver
      [.advance, .skip "b", .advance, .advance] 2 "b" := by
  refine ⟨by decide, by decide, ?_⟩
  have fair := (passes_are_fair fourScreens rfl rfl).2.2
    [.advancePastProvider, .skip "c", .advance] [.advance, .skip "b", .advance] .advance
    (.inr ⟨[.advancePastProvider, .skip "c"], .advance, rfl, by decide⟩) ⟨by decide, by decide⟩
  exact fair.leftOut 2 ⟨"b", "b"⟩ rfl (by decide)

end Marquee.Rotation
