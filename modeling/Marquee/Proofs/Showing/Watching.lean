import Mathlib.Tactic.Lemma
import Marquee.Scheduler.Showing

namespace Marquee

def Showing.yieldsTo (p : Showing) (found : Option Screen) : Bool :=
  match p.selection.source with
  | .onDemand => false
  | .rotation _ => found.isSome
  | .live => found ≠ some p.screen

namespace Scheduler

variable {γ σ : Type}

def looks (s : Scheduler γ σ) (p : Showing) : Bool :=
  p.selection.source ≠ .onDemand &&
    !s.lastLiveCheck.any fun last => Instant.since s.clock last < s.settings.liveCheckSpan

variable [HealthGate γ]

def looked (w : World σ) (s : Scheduler γ σ) : Scheduler γ σ :=
  (seekLive w { s with lastLiveCheck := some s.clock }).2

lemma livePreempts_of_looks (w : World σ) {s : Scheduler γ σ} {p : Showing} (h : s.looks p) :
    ∃ ns, s.livePreempts w p = (p.yieldsTo (s.seekLive w).1, (s.looked w).note ns) := by
  simp only [looks, Bool.and_eq_true, decide_eq_true_eq, Bool.not_eq_true', ne_eq] at h
  obtain ⟨source, due⟩ := h
  have found : (seekLive w { s with lastLiveCheck := some s.clock }).1 = (s.seekLive w).1 := rfl
  rw [livePreempts, if_neg source, if_neg (by simp [due]), Showing.yieldsTo]
  dsimp only
  rw [found]
  cases hsource : p.selection.source with
  | onDemand => exact absurd hsource source
  | live => exact ⟨[], rfl⟩
  | rotation index =>
    cases (s.seekLive w).1 with
    | none => exact ⟨[], rfl⟩
    | some live => exact ⟨[.preempted live p.screen], rfl⟩

lemma livePreempts_of_not_looks (w : World σ) {s : Scheduler γ σ} {p : Showing} (h : s.looks p = false) :
    s.livePreempts w p = (false, s) := by
  rw [livePreempts]
  by_cases source : p.selection.source = .onDemand
  · rw [if_pos source]
  · rw [if_neg source, if_pos (by simpa [looks, source] using h)]

lemma livePreempts_fst (w : World σ) (s : Scheduler γ σ) (p : Showing) :
    (s.livePreempts w p).1 = (s.looks p && p.yieldsTo (s.seekLive w).1) := by
  cases looks : s.looks p with
  | false => rw [livePreempts_of_not_looks w looks, Bool.false_and]
  | true =>
    obtain ⟨ns, found⟩ := livePreempts_of_looks w looks
    rw [found, Bool.true_and]

end Scheduler

end Marquee
