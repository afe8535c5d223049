import Marquee.Proofs.Scheduler.Kept
import Marquee.Proofs.Scheduler.Operation

namespace Marquee.Scheduler

def commandKinds : List MoveKind :=
  [.received, .took] ++ sessionKinds

lemma not_mem_sessionKinds {kind : MoveKind} (h : kind ∉ commandKinds) : kind ∉ sessionKinds :=
  fun hk => h (List.mem_append_right _ hk)

variable {γ σ : Type} [HealthGate γ]

structure Robust (w : World σ) (P : Scheduler γ σ → Prop) : Prop where
  move : ∀ {kind s s'}, Move w kind s s' → kind ∉ commandKinds → P s → P s'
  poll : ∀ s, P s → P (s.pollOnDemand w).2
  expire : ∀ s, P s → P s.checkExpiration.2

namespace Robust

variable {w : World σ} {P : Scheduler γ σ → Prop} {s s' : Scheduler γ σ} {kinds : List MoveKind}
  {a b : Stage × Scheduler γ σ}

lemma moves (hP : Robust w P) (h : Moves w kinds s s') (hk : ∀ kind ∈ kinds, kind ∉ commandKinds)
    (hs : P s) : P s' :=
  h.keep (fun kind hm _ _ move => hP.move move (hk kind hm)) hs

lemma chosen (hP : Robust w P) (hs : P s) : P (s.chosen w).2 := by
  have counted : P s.counted := hP.move (.counted s _) (by decide) hs
  have published := hP.move (.published _) (by decide) (hP.expire _ (hP.poll _ counted))
  exact hP.moves (select_moves w _) (by decide) published

lemma preemptionPending (hP : Robust w P) (p : Showing) (hs : P s) :
    P (s.preemptionPending w p).2 := by
  have heard := hP.expire _ (hP.poll s hs)
  unfold Scheduler.preemptionPending
  dsimp only
  split
  · exact heard
  · exact hP.moves (livePreempts_moves w _ p) (by decide) heard

lemma step (hP : Robust w P) (h : Step w a b) (he : EntitledAt a.1 a.2) (hb : ¬ BreaksOff a.1)
    (hs : P a.2) : P b.2 := by
  cases h with
  | halted s => exact hP.move (.counted s _) (by decide) hs
  | idled s => exact hP.moves (idle_moves w _) (by decide) (hP.chosen hs)
  | chose s => exact hP.move (.turned _ _) (by decide) (hP.chosen hs)
  | passedOver s selection =>
    have aside := hP.move (.setAside s selection.screen.provider) (by decide) hs
    have rotated := hP.move (.rotated _) (by decide) aside
    exact hP.moves (paceAfterPass_moves w _) (by decide) rotated
  | unregistered => exact hs
  | opened s selection => exact hP.move (.opened s selection) (by decide) hs
  | interrupted s | timeUp s | failed s | empty s | gaveUp s =>
    exact hP.move (.closed s _) (by decide) hs
  | preempted s p => exact hP.move (.closed _ _) (by decide) (hP.preemptionPending p hs)
  | drew s p first _ _ stay =>
    have hp := preemptionPending_of_false w s stay
    have entitled : s.Entitled p.selection := he
    have drew := Move.drew (w := w) _ p (first && p.forceClear) (entitled.calm hp.1) hp.2
    exact hP.move drew (by decide) (hP.preemptionPending p hs)
  | judged s p first =>
    exact hP.move (.closed _ _) (by decide) (hP.moves (judged_moves w p first s) (by decide) hs)
  | rested s p first =>
    exact hP.moves (rest_moves w _ p) (by decide) (hP.moves (judged_moves w p first s) (by decide) hs)
  | concluded s selection ending =>
    exact hP.moves ((conclude_unbroken w hb).andThen (paceAfterPass_moves w _)) (by decide) hs

lemma perform (hP : Robust w P) (tick : P s → P (s.tick w).2) (op : Operation σ) (hs : P s) :
    P (s.perform w op) := by
  cases op with
  | tick => exact tick hs
  | poll => exact hP.poll s hs
  | expire => exact hP.expire s hs
  | advance => exact hP.move (.rotated s) (by decide) hs
  | meanwhile span outside deadline =>
    exact hP.move (.elapsed s span outside deadline) (by decide) hs

end Robust

end Marquee.Scheduler
