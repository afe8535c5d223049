import Marquee.Proofs.Airtime
import Marquee.Proofs.Scheduler.Pacing

namespace Marquee

def Event.lasts : Event → Bool
  | .opened _ airtime _ => 1 ≤ airtime.targetSpan
  | _ => true

def Ending.isFutile : Ending → Bool
  | .noContent | .failed _ => true
  | _ => false

lemma Session.isExpired_of_not_isActive {session : Session} {now : Instant}
    (h : session.isActive = false) : session.isExpired now = false := by
  refine Bool.eq_false_iff.mpr fun expired => ?_
  rw [Session.isActive_of_isExpired expired] at h
  cases h

namespace Scheduler

variable {γ σ : Type} {s s' s'' : Scheduler γ σ} {w : World σ} {p : Showing}

structure Still (s s' : Scheduler γ σ) : Prop where
  clock : s'.clock = s.clock
  taken : s'.journal.countP Event.isTaken = s.journal.countP Event.isTaken

lemma Still.split (h : Still s s'') (before : Onward s s') (after : Onward s' s'') :
    Still s s' ∧ Still s' s'' := by
  have clock : s'.clock = s.clock :=
    Nat.le_antisymm (Nat.le_trans after.clock (Nat.le_of_eq h.clock)) before.clock
  have taken : s'.journal.countP Event.isTaken = s.journal.countP Event.isTaken :=
    Nat.le_antisymm (Nat.le_trans (after.countP_le _) (Nat.le_of_eq h.taken)) (before.countP_le _)
  exact ⟨⟨clock, taken⟩, ⟨h.clock.trans clock.symm, h.taken.trans taken.symm⟩⟩

lemma Still.not_lt (h : Still s s'') (after : Onward s' s'') : ¬ s.clock < s'.clock := fun moved =>
  absurd h.clock (Nat.ne_of_gt (Nat.lt_of_lt_of_le moved after.clock))

structure Steady (s s' : Scheduler γ σ) : Prop extends Onward s s' where
  session : s'.session = s.session
  place : s'.rotation.place = s.rotation.place
  shownThisPass : s'.shownThisPass = s.shownThisPass

namespace Steady

lemma refl (s : Scheduler γ σ) : Steady s s :=
  ⟨.refl s, rfl, rfl, rfl⟩

lemma trans (h : Steady s s') (h' : Steady s' s'') : Steady s s'' :=
  ⟨h.toOnward.trans h'.toOnward, h'.session.trans h.session, h'.place.trans h.place,
    h'.shownThisPass.trans h.shownThisPass⟩

lemma screens (h : Steady s s') : s'.rotation.screens = s.rotation.screens := by
  have hp := congrArg Rotation.screens h.place
  exact hp

lemma index (h : Steady s s') : s'.rotation.index = s.rotation.index := by
  have hp := congrArg Rotation.index h.place
  exact hp

end Steady

def RunOut (s s' : Scheduler γ σ) : Prop :=
  s.session.isActive ∧ s'.session.isActive = false

lemma checkExpiration_cases (s : Scheduler γ σ) :
    s.checkExpiration = (false, s) ∧ s.session.isExpired s.clock = false ∨
      RunOut s s.checkExpiration.2 := by
  rw [checkExpiration_eq]
  split
  next expired =>
    obtain ⟨ns, rotation, left⟩ :=
      leaveSession_marks s (s.session.finish "expired") (.sessionEnded "expired")
    refine .inr ⟨Session.isActive_of_isExpired expired, ?_⟩
    rw [publish_session, left]
    rfl
  next valid => exact .inl ⟨rfl, by simpa using valid⟩

structure Fresh (p : Showing) (s : Scheduler γ σ) : Prop where
  started : p.started = s.clock
  checked : s.lastLiveCheck = some s.clock
  valid : s.session.isExpired s.clock = false
  least : 0 < p.airtime.least
  target : 1 ≤ p.target
  interval : 1 ≤ p.interval

lemma Fresh.elapsed_eq (h : Fresh p s) (hc : s'.clock = s.clock) : p.elapsed s'.clock = 0 := by
  rw [Showing.elapsed, h.started, hc]
  exact Nat.sub_self _

lemma judge_of_elapsed (h : p.elapsed s.clock = 0) (least : 0 < p.airtime.least)
    (target : 1 ≤ p.target) : (s.judge w p).1 = none := by
  unfold judge
  dsimp only
  rw [h, Airtime.exitDecision_zero least target]

lemma draw_steady (w : World σ) (p : Showing) (forceClear : Bool) (s : Scheduler γ σ) :
    Steady s (s.draw w p forceClear).2 :=
  ⟨draw_onward w p forceClear s, rfl, rfl, rfl⟩

lemma openShowing_entry (w : World σ) (selection : Selection) (s : Scheduler γ σ) :
    .opened selection (s.openShowing w selection).1.airtime s.clock ∈
      (s.openShowing w selection).2.journal := by
  obtain ⟨restarts, ns, ns', outside, counters, lastDynamic, hopen, -⟩ :=
    openShowing_eq w selection s
  rw [hopen]
  exact List.mem_append_right restarts (.head _)

lemma heard_not_still (r : Request) (after : Onward (s.heard w r) s') : ¬ Still s s' := by
  intro still
  have heard : (s.heard w r).journal.countP Event.isTaken = s.journal.countP Event.isTaken + 1 := by
    rw [heard_journal]
    exact List.countP_cons_of_pos rfl
  have taken := still.taken ▸ after.countP_le Event.isTaken
  omega

def unsteadyKinds : List MoveKind :=
  sessionKinds ++ [.rotated, .setAside, .acknowledged, .elapsed]

variable [HealthGate γ] {kind : MoveKind} {kinds : List MoveKind}

lemma Move.steady (h : Move w kind s s') (hk : kind ∉ unsteadyKinds) : Steady s s' := by
  simp only [unsteadyKinds, List.mem_append, not_or] at hk
  refine ⟨h.onward ?_, h.kept.session hk.1, ?_, h.kept.shownThisPass ?_⟩
  · simp_all
  · by_cases hr : kind ∈ rotationKinds
    · cases h with
      | blanked => rfl
      | opened s selection =>
        obtain ⟨restarts, ns, ns', outside, counters, lastDynamic, hopen, -⟩ :=
          openShowing_eq w selection s
        rw [hopen]
        rfl
      | _ => simp_all [rotationKinds, sessionKinds]
    · rw [h.kept.rotation hr]
  · simp_all

lemma Moves.steady (h : Moves w kinds s s')
    (hk : ∀ kind ∈ kinds, kind ∉ unsteadyKinds) : Steady s s' :=
  h.preserve .refl (fun _ _ _ => .trans) fun kind hm _ _ move => move.steady (hk kind hm)

lemma Moves.lastLiveCheck_eq (h : Moves w kinds s s')
    (hk : ∀ kind ∈ kinds, kind ∉ [.looked, .opened]) :
    s'.lastLiveCheck = s.lastLiveCheck :=
  h.preserve (R := fun a b => b.lastLiveCheck = a.lastLiveCheck) (fun _ => rfl)
    (fun _ _ _ hab hbc => hbc.trans hab) fun kind hm _ _ move => move.kept.lastLiveCheck (hk kind hm)

lemma pollOnDemand_still (h : Still s (s.pollOnDemand w).2) :
    (s.pollOnDemand w).1 = false ∧ Steady s (s.pollOnDemand w).2 ∧
      (s.pollOnDemand w).2.lastLiveCheck = s.lastLiveCheck := by
  rcases (pollOnDemand_polled w s).nothing_or_heard with ⟨answer, hs⟩ | ⟨r, obeyed⟩
  · rw [hs]
    have unheard := unheard_moves w s
    exact ⟨answer, unheard.steady (by decide), unheard.lastLiveCheck_eq (by decide)⟩
  · exact absurd h (heard_not_still r (obeyed.onward (by decide)))

lemma prepare_still (h : Still s (s.prepare w)) :
    (s.prepare w).session.isExpired s.clock = false ∧
      (Steady s (s.prepare w) ∨ RunOut s (s.prepare w)) := by
  let polled := (s.pollOnDemand w).2
  have published : Steady polled.checkExpiration.2 (s.prepare w) :=
    (Move.published (w := w) _).steady (by decide)
  have checked := (checkExpiration_moves w polled).onward (by decide)
  have polling := (pollOnDemand_moves w s).onward (by decide)
  have still := h.split polling (checked.trans published.toOnward)
  have unheard := (pollOnDemand_still still.1).2.1
  have session : (s.prepare w).session = polled.checkExpiration.2.session := published.session
  rcases checkExpiration_cases polled with ⟨checked, valid⟩ | ⟨active, ended⟩
  · rw [checked] at published session
    rw [still.1.clock] at valid
    exact ⟨session ▸ valid, .inl (unheard.trans published)⟩
  · rw [← session] at ended
    rw [unheard.session] at active
    exact ⟨Session.isExpired_of_not_isActive ended, .inr ⟨active, ended⟩⟩

lemma chosen_still (h : Still s (s.chosen w).2) :
    (s.chosen w).2.session.isExpired (s.chosen w).2.clock = false ∧
      (Steady s (s.chosen w).2 ∨ RunOut s (s.chosen w).2) := by
  have counted : Steady s s.counted := (Move.counted (w := w) s _).steady (by decide)
  have prepared := (prepare_moves w s.counted).onward (by decide)
  have selected := (select_moves w (s.counted.prepare w)).steady (by decide)
  have still := h.split counted.toOnward (prepared.trans selected.toOnward)
  obtain ⟨valid, kept⟩ := prepare_still (still.2.split prepared selected.toOnward).1
  have session : (s.chosen w).2.session = (s.counted.prepare w).session := selected.session
  rw [h.clock, session]
  refine ⟨valid, kept.imp (fun steady => ?_) fun runOut => ?_⟩
  · exact counted.trans (steady.trans selected)
  · exact ⟨runOut.1, session ▸ runOut.2⟩

namespace Fresh

variable {answer : Option Ending}

lemma preemptionPending_still (hp : Fresh p s) (hs : s.Paced)
    (h : Still s (s.preemptionPending w p).2) :
    (s.preemptionPending w p).1 = false ∧ Steady s (s.preemptionPending w p).2 := by
  let polled := (s.pollOnDemand w).2
  have polling := (pollOnDemand_moves w s).onward (by decide)
  have after : Onward polled (s.preemptionPending w p).2 := by
    have checked := checkExpiration_moves w polled
    unfold preemptionPending
    dsimp only
    split
    · exact checked.onward (by decide)
    · exact (checked.andThen (livePreempts_moves w _ p)).onward (by decide)
  have still := (h.split polling after).1
  obtain ⟨quiet, unheard, looked⟩ := pollOnDemand_still still
  have valid : polled.session.isExpired polled.clock = false := by
    rw [unheard.session, still.clock]
    exact hp.valid
  have recent : polled.lastLiveCheck = some polled.clock := by
    rw [looked, still.clock]
    exact hp.checked
  have live : livePreempts w p polled = (false, polled) := by
    have early : Instant.since polled.clock polled.clock < polled.settings.liveCheckSpan := by
      rw [Instant.since, Nat.sub_self]
      exact (hs.onward polling).liveCheck
    simp [livePreempts, recent, early]
  have expiration : polled.checkExpiration = (false, polled) := by
    rw [checkExpiration_eq, valid]
    rfl
  have pending : s.preemptionPending w p = (false, polled) := by
    unfold preemptionPending
    change (if (s.pollOnDemand w).1 || polled.checkExpiration.1 then _ else _) = _
    rw [quiet, expiration]
    exact live
  rw [pending]
  exact ⟨rfl, unheard⟩

lemma followed_still {drawing : Drawing} (hp : Fresh p s) (hc : s'.clock = s.clock)
    (hs : s'.Paced) (followed : Followed w p true s' drawing answer s'') (h : Still s' s'') :
    (∃ ending, answer = some ending ∧ ending.isFutile) ∧ s'' = s' := by
  have elapsed := hp.elapsed_eq hc
  cases followed with
  | failed error => exact ⟨⟨.failed error, rfl, rfl⟩, rfl⟩
  | empty => exact ⟨⟨.noContent, rfl, rfl⟩, rfl⟩
  | judged _ ending _ judged =>
    rw [← (acknowledge_moves w s' p true).clock_eq (by decide)] at elapsed
    rw [judge_of_elapsed elapsed hp.least hp.target] at judged
    cases judged
  | rested drawing holds stay =>
    have left : p.elapsed s'.clock < p.target := by
      rw [elapsed]
      exact hp.target
    have moved := (Followed.rested drawing holds stay).clock_lt hs hp.interval (Nat.le_refl _) left
    exact absurd moved (h.not_lt (.refl _))

lemma rounded_still (hp : Fresh p s) (hs : s.Paced) (going : s.shouldStop w = false)
    (rounded : Rounded w p true s answer s') (h : Still s s') :
    (∃ ending, answer = some ending ∧ ending.isFutile) ∧ Steady s s' := by
  cases rounded with
  | interrupted stop => simp [going] at stop
  | timeUp up =>
    rw [hp.elapsed_eq rfl] at up
    exact absurd (Nat.le_trans hp.target up) (by decide)
  | preempted _ _ pre => simp [(hp.preemptionPending_still hs h).1] at pre
  | drew answer s' _ _ _ followed =>
    have checked := (preemptionPending_moves w s p).onward (by decide)
    have drawn := draw_onward w p (true && p.forceClear) (s.preemptionPending w p).2
    have before := h.split checked (drawn.trans followed.onward)
    have after := h.split (checked.trans drawn) followed.onward
    obtain ⟨futile, rfl⟩ := hp.followed_still after.1.clock (hs.onward (checked.trans drawn))
      followed after.2
    exact ⟨futile, (hp.preemptionPending_still hs before.1).2.trans (draw_steady w p _ _)⟩

lemma rounds_still (hp : Fresh p s) (hs : s.Paced) (going : s.shouldStop w = false) {count : Nat}
    (h : Still s (rounds w p (count + 1) true s).2) :
    (rounds w p (count + 1) true s).1.isFutile ∧ Steady s (rounds w p (count + 1) true s).2 := by
  have rounded := round_rounded w s p true
  rw [rounds] at h ⊢
  generalize s.round w p true = result at rounded h ⊢
  obtain ⟨answer, s'⟩ := result
  cases answer with
  | some ending =>
    obtain ⟨⟨_, answered, futile⟩, steady⟩ := hp.rounded_still hs going rounded h
    cases answered
    exact ⟨futile, steady⟩
  | none =>
    have moved := rounded.clock_lt hs hp.interval
    exact absurd moved (h.not_lt (rounds_onward w p count false s'))

end Fresh

lemma openShowing_fresh (w : World σ) {selection : Selection} (hs : s.Paced)
    (valid : s.session.isExpired s.clock = false)
    (target : 1 ≤ (s.airtimeFor w selection.screen).value.targetSpan) :
    Fresh (s.openShowing w selection).1 (s.openShowing w selection).2 := by
  have opened := Move.opened (w := w) s selection
  refine ⟨rfl, rfl, ?_, ?_, target, hs.intervalFor_pos w selection.screen⟩
  · rw [opened.kept.session (by decide), opened.kept.clock (by decide)]
    exact valid
  · exact AirtimeRule.resolve_least_pos _ _ _ _ _ _

lemma present_still {selection : Selection} (hs : s.Paced)
    (unasked : ∀ outside now, w.stopRequested outside now = false)
    (valid : s.session.isExpired s.clock = false)
    (lasts : ∀ e ∈ (s.present w selection).2.journal, e.lasts)
    (h : Still s (s.present w selection).2) :
    (s.present w selection).1.isFutile ∧ Steady s (s.present w selection).2 := by
  by_cases registered : s.catalog.hasProvider selection.screen.provider
  · let opened := s.openShowing w selection
    let ended := rounds w opened.1 (opened.1.target + w.patience + 2) true opened.2
    have present : s.present w selection = (ended.1, ended.2.closed ended.1) := if_pos registered
    rw [present] at h lasts ⊢
    have opening := (Move.opened (w := w) s selection).steady (by decide)
    have showing := rounds_onward w opened.1 (opened.1.target + w.patience + 2) true opened.2
    have closing := (Move.closed (w := w) ended.2 ended.1).steady (by decide)
    have after := showing.trans closing.toOnward
    have paced := hs.onward opening.toOnward
    have target := of_decide_eq_true (lasts _ (after.mem (openShowing_entry w selection s)))
    have fresh := openShowing_fresh w hs valid target
    have still := (h.split opening.toOnward after).2.split showing closing.toOnward
    obtain ⟨futile, steady⟩ := fresh.rounds_still paced (paced.shouldStop_eq unasked) still.1
    exact ⟨futile, opening.trans (steady.trans closing)⟩
  · rw [present, if_neg registered]
    exact ⟨rfl, .refl s⟩

end Scheduler

end Marquee
