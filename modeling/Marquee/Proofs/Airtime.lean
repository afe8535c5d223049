import Marquee.Airtime
import Marquee.Proofs.Number.Sign
import Marquee.Proofs.Settings

/-! How long a screen stays on the display: the bounds of its airtime, whatever is set and whatever providers
answer, and what can be told of it at the moment a showing begins. -/

namespace Marquee

lemma Span.seconds_zero : Span.seconds 0 = 0 := by
  decide +kernel

lemma AirtimeRule.resolve_least_pos (r : AirtimeRule) (provider : ProviderId) (a : Answers)
    (mode : ModeId) (base fallback : Float) :
    0 < (r.resolve provider a mode base fallback).value.least := by
  have initial : Settings.Range.duration.Contains (.number 15) := by decide +kernel
  have least : 0 < (Settings.positiveOr base (Settings.positiveOr fallback 15 "fallback duration").value
      ("duration for '" ++ mode ++ "'")).value :=
    (Settings.positiveOr_mended (Settings.positiveOr_mended initial).usable).usable.1
  rw [resolve, Noted.value_bind, Noted.value_bind]
  split
  · exact least
  · exact least

namespace Airtime

variable {t : Airtime}

lemma not_asksForCycle_zero (h : 0 < t.least) (grace : Span) : t.asksForCycle 0 grace = false := by
  have young : ¬ t.least + grace.seconds ≤ Span.seconds 0 := by
    rw [Span.seconds_zero]
    exact Number.not_add_seconds_le_zero h grace
  simp [asksForCycle, young]

lemma exitDecision_zero (h : 0 < t.least) (ht : 1 ≤ t.targetSpan) (grace : Span)
    (cycleComplete : Bool) : t.exitDecision 0 grace cycleComplete = .stay := by
  have early : ¬ t.target ≤ Span.seconds 0 := by
    intro hle
    rw [Span.seconds_zero] at hle
    rw [targetSpan, Span.ofSeconds, if_pos (by simp [hle])] at ht
    exact absurd ht (by decide)
  simp [exitDecision, early, not_asksForCycle_zero h]

end Airtime

/-- The seconds that are used for these: at most seven days of them if they are a positive number, or else the
others. -/
def Settings.Uses (seconds others used : Float) : Prop :=
  if seconds.isFinite ∧ 0 < seconds then IsLeast {seconds, Span.longestSeconds} used else used = others

namespace Answers

def caps (a : Answers) : Set Float :=
  {cap | a.dynamicCap = some cap ∧ cap.isFinite ∧ 0 < cap}

def cycles (a : Answers) (mode : ModeId) : Set Float :=
  {cycle | a.cycleSeconds mode = .ok (some cycle) ∧ cycle.isFinite ∧ 0 < cycle}

end Answers

namespace AirtimeRule

open Number

variable {x y : Float}

lemma isLeast_smaller (hx : x.isFinite) (hy : y.isFinite) : IsLeast {x, y} (smaller x y) := by
  rw [smaller]
  split
  next less =>
    refine ⟨Set.mem_insert_of_mem x rfl, ?_⟩
    rintro z (rfl | rfl)
    · exact Double.le_of_lt less
    · exact Double.le_refl hy
  next notLess =>
    refine ⟨Set.mem_insert x _, ?_⟩
    rintro z (rfl | rfl)
    · exact Double.le_refl hx
    · exact (not_lt_iff_le hx hy).mp notLess

lemma isGreatest_larger (hx : x.isFinite) (hy : y.isFinite) : IsGreatest {x, y} (larger x y) := by
  rw [larger]
  split
  next less =>
    refine ⟨Set.mem_insert_of_mem x rfl, ?_⟩
    rintro z (rfl | rfl)
    · exact Double.le_of_lt less
    · exact Double.le_refl hy
  next notLess =>
    refine ⟨Set.mem_insert x _, ?_⟩
    rintro z (rfl | rfl)
    · exact Double.le_refl hx
    · exact (not_lt_iff_le hy hx).mp notLess

lemma positiveOr_uses (x y : Float) (name : String) :
    Settings.Uses x y (Settings.positiveOr x y name).value := by
  have atMost : (Settings.atMost x Span.longestSeconds name).value = smaller x Span.longestSeconds := by
    rw [Settings.atMost, smaller]
    split <;> rfl
  rw [Settings.Uses, Settings.positiveOr]
  split
  next positive =>
    rw [atMost]
    exact isLeast_smaller positive.1 Span.isFinite_longest
  next => rfl

def limited (limit : Float) (other : Option Float) : Float :=
  other.elim limit fun x => smaller x limit

lemma chosenCap_eq (r : AirtimeRule) (cap : Option Float) : r.chosenCap cap = limited r.cap cap := by
  cases cap <;> rfl

lemma dynamicTime_eq (base cap : Float) (cycle : Option Float) :
    dynamicTime base cap cycle = ⟨base, larger cap base, larger (limited cap cycle) base, true⟩ := by
  cases cycle <;> rfl

lemma isLeast_limited {other : Option Float} {others : Set Float} (hx : x.isFinite)
    (same : ∀ y, other = some y ↔ y ∈ others) (finite : ∀ y ∈ others, y.isFinite) :
    IsLeast (insert x others) (limited x other) := by
  cases other with
  | none =>
    refine ⟨Set.mem_insert x _, ?_⟩
    rintro z (rfl | mem)
    · exact Double.le_refl hx
    · cases (same z).mpr mem
  | some y =>
    have mem := (same y).mp rfl
    obtain ⟨least, low⟩ := isLeast_smaller (finite y mem) hx
    refine ⟨?_, ?_⟩
    · rcases least with same | same
      · exact .inr (Set.mem_of_eq_of_mem same mem)
      · exact .inl same
    · rintro z (rfl | mem)
      · exact low (Set.mem_insert_of_mem y rfl)
      · obtain rfl : y = z := Option.some.inj ((same z).mpr mem)
        exact low (Set.mem_insert y _)

lemma isFinite_limited {others : Set Float} (hx : x.isFinite) (finite : ∀ y ∈ others, y.isFinite)
    (h : IsLeast (insert x others) y) : y.isFinite := by
  rcases h.1 with rfl | mem
  · exact hx
  · exact finite y mem

lemma usableCap_iff (provider : ProviderId) (a : Answers) :
    (usableCap provider a.dynamicCap).value = some x ↔ x ∈ a.caps := by
  have filtered : (usableCap provider a.dynamicCap).value = a.dynamicCap.filter isUsable := by
    cases a.dynamicCap with
    | none => rfl
    | some cap =>
      rw [usableCap, Option.filter]
      split <;> rfl
  rw [filtered, Option.filter_eq_some_iff, isUsable, Bool.and_eq_true, decide_eq_true_iff]
  rfl

lemma usableCycle_iff (provider : ProviderId) (a : Answers) (mode : ModeId) :
    (usableCycle provider (a.cycleSeconds mode)).value = some x ↔ x ∈ a.cycles mode := by
  rw [Answers.cycles, Set.mem_ofPred_eq]
  cases a.cycleSeconds mode with
  | error e => simp [usableCycle]
  | ok cycle => simp [usableCycle, Option.filter_eq_some_iff, isUsable]

lemma resolve_eq (r : AirtimeRule) (provider : ProviderId) (a : Answers) (mode : ModeId)
    (base fallback : Float) :
    let spare := (Settings.positiveOr fallback 15 "fallback duration").value
    let used := (Settings.positiveOr base spare ("duration for '" ++ mode ++ "'")).value
    let cap := limited r.cap (usableCap provider a.dynamicCap).value
    let wish := limited cap (usableCycle provider (a.cycleSeconds mode)).value
    (r.resolve provider a mode base fallback).value =
      if a.isDynamic then ⟨used, larger cap used, larger wish used, true⟩ else .fixed used := by
  intro spare used cap wish
  rw [resolve, Noted.value_bind, Noted.value_bind]
  split
  · rw [Noted.value_bind, Noted.value_bind, Noted.value_pure, chosenCap_eq, dynamicTime_eq]
  · rfl

lemma resolve_congr {a a' : Answers} {mode : ModeId} (dynamic : a'.isDynamic = a.isDynamic)
    (caps : a'.caps = a.caps) (cycles : a'.cycles mode = a.cycles mode) (r : AirtimeRule)
    (provider : ProviderId) (base fallback : Float) :
    (r.resolve provider a' mode base fallback).value = (r.resolve provider a mode base fallback).value := by
  have cap : (usableCap provider a'.dynamicCap).value = (usableCap provider a.dynamicCap).value := by
    ext x
    rw [usableCap_iff, usableCap_iff, caps]
  have cycle : (usableCycle provider (a'.cycleSeconds mode)).value =
      (usableCycle provider (a.cycleSeconds mode)).value := by
    ext x
    rw [usableCycle_iff, usableCycle_iff, cycles]
  rw [resolve_eq, resolve_eq, dynamic, cap, cycle]

lemma in_order {base cap wish greatest target : Float} (cap_le : cap ≤ Span.longestSeconds)
    (base_le : base ≤ Span.longestSeconds) (wish_le : wish ≤ cap) (hg : IsGreatest {cap, base} greatest)
    (ht : IsGreatest {wish, base} target) :
    base ≤ target ∧ target ≤ greatest ∧ greatest ≤ Span.longestSeconds := by
  have cap_le_greatest : cap ≤ greatest := hg.2 (Set.mem_insert cap _)
  have base_le_greatest : base ≤ greatest := hg.2 (Set.mem_insert_of_mem cap rfl)
  refine ⟨ht.2 (Set.mem_insert_of_mem wish rfl), ?_, ?_⟩
  · rcases ht.1 with rfl | rfl
    · exact Double.le_trans wish_le cap_le_greatest
    · exact base_le_greatest
  · rcases hg.1 with rfl | rfl
    · exact cap_le
    · exact base_le

/-- Whatever is set and whatever a provider answers, an airtime is positive, its times are in order, and none is
longer than seven days. Static content gets the base time, dynamic content that and what its cycle takes within
the caps; a cap or a cycle that cannot be used is as good as none. -/
theorem resolve_in_bounds (s : Settings) (provider : ProviderId) (a : Answers) (mode : ModeId)
    (base fallback : Float) :
    let r := (AirtimeRule.new s).value
    let t := (r.resolve provider a mode base fallback).value
    (0 < t.least ∧ t.least ≤ t.target ∧ t.target ≤ t.greatest ∧ t.greatest ≤ Span.longestSeconds) ∧
    t.dynamic = a.isDynamic ∧
    (∃ spare, Settings.Uses fallback 15 spare ∧ Settings.Uses base spare t.least) ∧
    (if a.isDynamic then
      ∃ ceiling cap wish, Settings.Uses s.dynamicCap 180 ceiling ∧ IsLeast (insert ceiling a.caps) cap ∧
        IsLeast (insert cap (a.cycles mode)) wish ∧ IsGreatest {cap, t.least} t.greatest ∧
        IsGreatest {wish, t.least} t.target
    else t.target = t.least ∧ t.greatest = t.least) ∧
    ∀ a' : Answers, a'.isDynamic = a.isDynamic → a'.caps = a.caps → a'.cycles mode = a.cycles mode →
      (r.resolve provider a' mode base fallback).value = t := by
  intro r t
  let spare := (Settings.positiveOr fallback 15 "fallback duration").value
  let used := (Settings.positiveOr base spare ("duration for '" ++ mode ++ "'")).value
  let cap := limited r.cap (usableCap provider a.dynamicCap).value
  let wish := limited cap (usableCycle provider (a.cycleSeconds mode)).value
  have resolved : t = if a.isDynamic then ⟨used, larger cap used, larger wish used, true⟩ else .fixed used :=
    resolve_eq r provider a mode base fallback
  have initial : Settings.Range.duration.Contains (.number 15) := by decide +kernel
  have ceiling : Settings.Range.duration.Contains (.number r.cap) :=
    (Settings.positiveOr_mended (by decide +kernel)).usable
  have usable : Settings.Range.duration.Contains (.number used) :=
    (Settings.positiveOr_mended (Settings.positiveOr_mended initial).usable).usable
  have uses : ∃ spare, Settings.Uses fallback 15 spare ∧ Settings.Uses base spare used :=
    ⟨spare, positiveOr_uses _ _ _, positiveOr_uses _ _ _⟩
  have congr : ∀ a' : Answers, a'.isDynamic = a.isDynamic → a'.caps = a.caps →
      a'.cycles mode = a.cycles mode → (r.resolve provider a' mode base fallback).value = t :=
    fun a' dynamic caps cycles => resolve_congr dynamic caps cycles r provider base fallback
  cases dynamic : a.isDynamic with
  | false =>
    rw [dynamic, if_neg (by decide)] at resolved
    have self := Double.le_refl usable.isFinite
    rw [resolved]
    exact ⟨⟨usable.1, self, self, usable.2⟩, rfl, uses, ⟨rfl, rfl⟩, resolved ▸ dynamic ▸ congr⟩
  | true =>
    rw [dynamic, if_pos rfl] at resolved
    have capIsLeast : IsLeast (insert r.cap a.caps) cap :=
      isLeast_limited ceiling.isFinite (fun _ => usableCap_iff provider a) fun _ mem => mem.2.1
    have finiteCap := isFinite_limited ceiling.isFinite (fun _ mem => mem.2.1) capIsLeast
    have wishIsLeast : IsLeast (insert cap (a.cycles mode)) wish :=
      isLeast_limited finiteCap (fun _ => usableCycle_iff provider a mode) fun _ mem => mem.2.1
    have finiteWish := isFinite_limited finiteCap (fun _ mem => mem.2.1) wishIsLeast
    have greatest := isGreatest_larger finiteCap usable.isFinite
    have target := isGreatest_larger finiteWish usable.isFinite
    have cap_le : cap ≤ Span.longestSeconds :=
      Double.le_trans (capIsLeast.2 (Set.mem_insert _ _)) ceiling.2
    have order := in_order cap_le usable.2 (wishIsLeast.2 (Set.mem_insert _ _)) greatest target
    rw [resolved]
    exact ⟨⟨usable.1, order⟩, rfl, uses, ⟨r.cap, cap, wish, positiveOr_uses _ _ _, capIsLeast, wishIsLeast,
      greatest, target⟩, resolved ▸ dynamic ▸ congr⟩

end AirtimeRule

end Marquee
