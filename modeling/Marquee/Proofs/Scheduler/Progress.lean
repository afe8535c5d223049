import Marquee.Proofs.Scheduler.Slack

/-! Ticks one after the other: as long as they take no time and no command they use up slack, and there
is never more of it than for twice as many ticks as there are screens and providers, and one. -/

namespace Marquee.Scheduler

variable {γ σ : Type} [HealthGate γ] {s s' : Scheduler γ σ} {selection : Selection} (w : World σ)

lemma conclude_still {ending : Ending} (hs : s.Paced) (ready : Ready selection s)
    (futile : ending.isFutile) (h : Still s (s.conclude w selection ending).2.paceAfterPass) :
    (s.conclude w selection ending).2.paceAfterPass.slack < s.slack := by
  have concluded : Onward s (s.conclude w selection ending).2 :=
    (conclude_moves w fun _ => ready.entitled).onward (by decide)
  have resting := (paceAfterPass_moves w (s.conclude w selection ending).2).onward (by decide)
  have parts := h.split concluded resting
  obtain ⟨busy, same⟩ := paceAfterPass_still (hs.onward concluded) parts.2
  rw [same]
  cases ending with
  | noContent =>
    let praised := s.reportSuccess selection.screen.provider
    have praising : Steady s praised := (Move.succeeded (w := w) s _).steady (by decide)
    have ready := ready.steady praising
    by_cases rotation : selection.source.isRotation
    · have advances : (s.conclude w selection .noContent).2 = praised.advanceRotation :=
        if_pos rotation
      rw [advances] at busy ⊢
      rw [← praising.slack_eq]
      have advanced := advanceRotation_slack ready.index ready.screens
        (ready.isActive_eq (Source.ne_onDemand rotation))
      exact advanced.resolve_left (Bool.eq_false_iff.mp busy)
    · have sleeps : (s.conclude w selection .noContent).2 = praised.idleSleep := if_neg rotation
      have moved := (hs.onward praising.toOnward).idleSleep_lt
      rw [← sleeps] at moved
      exact absurd moved (parts.1.not_lt (.refl _))
  | failed error => exact afterFailure_slack w ready error busy
  | _ => cases futile

include w in
lemma passOver_still (hs : s.Paced) (ready : Ready selection s)
    (rotation : selection.source.isRotation)
    (h : Still s (s.skipProvider selection.screen.provider).advanceRotation.paceAfterPass) :
    (s.skipProvider selection.screen.provider).advanceRotation.paceAfterPass.slack < s.slack := by
  let passed := (s.skipProvider selection.screen.provider).advanceRotation
  have passing : Onward s passed :=
    ((Moves.single (.setAside (w := w) _ _)).andThen (.single (.rotated _))).onward (by decide)
  have parts := h.split passing ((paceAfterPass_moves w passed).onward (by decide))
  obtain ⟨busy, same⟩ := paceAfterPass_still (hs.onward passing) parts.2
  rw [same]
  exact (passOver_slack selection.screen.provider ready.index ready.screens
    (ready.isActive_eq (Source.ne_onDemand rotation))).resolve_left (Bool.eq_false_iff.mp busy)

lemma serve_still (hs : s.Paced) (unasked : ∀ outside now, w.stopRequested outside now = false)
    (valid : s.session.isExpired s.clock = false) (ready : Ready selection s)
    (lasts : ∀ e ∈ (s.serve w selection).2.journal, e.lasts)
    (h : Still s (s.serve w selection).2) : (s.serve w selection).2.slack < s.slack := by
  have turning : Steady s (s.turnedTo selection) := (Move.turned (w := w) s _).steady (by decide)
  have paced := hs.onward turning.toOnward
  have ready := ready.steady turning
  have still : Still (s.turnedTo selection) (s.serve w selection).2 := ⟨h.clock, h.taken⟩
  rw [← turning.slack_eq]
  rw [serve_eq] at still lasts ⊢
  by_cases passed : (s.turnedTo selection).isPassedOver selection
  · rw [if_pos passed] at still ⊢
    simp only [isPassedOver, Bool.and_eq_true] at passed
    exact passOver_still w paced ready passed.1 still
  · rw [if_neg passed] at still lasts ⊢
    let ended := (s.turnedTo selection).present w selection
    obtain ⟨shown, entitled⟩ := present_moves (w := w) ready.entitled (by simpa using passed)
    have rest : Onward ended.2 (ended.2.conclude w selection ended.1).2.paceAfterPass :=
      ((conclude_moves w entitled).andThen (paceAfterPass_moves w _)).onward (by decide)
    have parts := still.split (shown.onward (by decide)) rest
    obtain ⟨futile, steady⟩ := present_still paced unasked valid
      (fun e he => lasts e (rest.mem he)) parts.1
    rw [← steady.slack_eq]
    exact conclude_still w (paced.onward steady.toOnward) (ready.steady steady) futile parts.2

lemma chosen_ready (h : (s.chosen w).1 = some selection) (hr : (s.chosen w).2.Resumable) :
    Ready selection (s.chosen w).2 := by
  let prepared := s.counted.prepare w
  have steady : Steady prepared (s.chosen w).2 := (select_moves w prepared).steady (by decide)
  have entitled : (s.chosen w).2.Entitled selection := select_entitled w prepared h
  have grounded : (s.chosen w).2.Grounded selection := chosen_grounded w s h
  have selected := select_selected w prepared h
  cases selected with
  | onDemand screen shown =>
    obtain ⟨running, hrunning, -⟩ := Option.map_eq_some_iff.mp entitled
    obtain ⟨index, -, -, hlt⟩ := hr.kept running hrunning
    exact ⟨entitled, hr.screens, hr.placed (List.length_pos_iff.mp (Nat.zero_lt_of_lt hlt)), by simp⟩
  | live screen _ found =>
    obtain ⟨sought, -, registered⟩ := Live.search_found found
    have nonempty : prepared.catalog.screens ≠ [] := by
      intro hnil
      simp [Catalog.rotationOrder, hnil] at sought
    rw [← steady.catalog] at nonempty registered
    exact ⟨entitled, hr.screens, hr.placed (hr.screens ▸ nonempty), fun _ => ⟨registered, grounded⟩⟩
  | rotation screen =>
    obtain ⟨hlt, -⟩ := List.getElem?_eq_some_iff.mp grounded
    exact ⟨entitled, hr.screens, hlt, by simp⟩

lemma serve_onward (entitled : s.Entitled selection) : Onward s (s.serve w selection).2 := by
  have turning : Moves w [.turned] s (s.turnedTo selection) := .single (.turned s _)
  have served : Moves w tickKinds (s.turnedTo selection) (s.serve w selection).2 :=
    (serve_steps w s selection).invariant_of_entitled
      (fun _ s' => Moves w tickKinds (s.turnedTo selection) s')
      (fun _ _ step he moves => moves.trans (step.moves he))
      (entitled.calm (turning.calm (by decide))) (.refl _)
  exact (turning.andThen served).onward (by decide)

lemma tick_still (hs : s.Paced) (hr : s.Resumable)
    (unasked : ∀ outside now, w.stopRequested outside now = false)
    (lasts : ∀ e ∈ (s.tick w).2.journal, e.lasts)
    (h : Still s (s.tick w).2) : s.catalog.screens ≠ [] ∧ (s.tick w).2.slack < s.slack := by
  have choosing := (chosen_moves w s).onward (by decide)
  have paced := hs.onward choosing
  have going : ¬ s.shouldStop w := Bool.eq_false_iff.mp (hs.shouldStop_eq unasked)
  rw [tick_eq, if_neg going] at h lasts ⊢
  cases chosen : (s.chosen w).1 with
  | none =>
    rw [chosen] at h
    have idling := (idle_moves w (s.chosen w).2).onward (by decide)
    exact absurd paced.idle_lt ((h.split choosing idling).2.not_lt (.refl _))
  | some selection =>
    rw [chosen] at h lasts
    have resumable := (chosen_moves w s).keep (fun _ _ _ _ move => move.resumable) hr
    have ready := chosen_ready w chosen resumable
    have parts := h.split choosing (serve_onward w ready.entitled)
    obtain ⟨valid, kept⟩ := chosen_still parts.1
    have chosenSlack : (s.chosen w).2.slack ≤ s.slack := by
      rcases kept with steady | runOut
      · exact Nat.le_of_eq steady.slack_eq
      · exact Nat.le_of_lt (runOut.slack_lt choosing.catalog)
    refine ⟨?_, Nat.lt_of_lt_of_le ?_ chosenSlack⟩
    · rw [← choosing.catalog, ← ready.screens]
      exact List.length_pos_iff.mp (Nat.zero_lt_of_lt ready.index)
    · exact serve_still w paced unasked valid ready lasts parts.2

def ticked (w : World σ) (s : Scheduler γ σ) (n : Nat) : Scheduler γ σ :=
  s.performAll w (List.replicate n .tick)

variable {w}

lemma ticked_succ (s : Scheduler γ σ) (n : Nat) :
    s.ticked w (n + 1) = ((s.ticked w n).tick w).2 := by
  rw [ticked, performAll, List.replicate_succ', List.foldl_append]
  rfl

lemma ticked_onward (s : Scheduler γ σ) {m n : Nat} (h : m ≤ n) :
    Onward (s.ticked w m) (s.ticked w n) := by
  induction h with
  | refl => exact .refl _
  | step _ ih =>
    rw [ticked_succ]
    exact ih.trans ((tick_moves w _).onward (by decide))

lemma Resumable.ticked (hr : s.Resumable) (n : Nat) : (s.ticked w n).Resumable :=
  performAll_of_moves (fun _ _ _ move => move.resumable) hr _

lemma ticked_slack {n : Nat} (hs : s.Paced) (hr : s.Resumable)
    (unasked : ∀ outside now, w.stopRequested outside now = false)
    (lasts : ∀ e ∈ (s.ticked w n).journal, e.lasts)
    (h : Still s (s.ticked w n)) : (s.ticked w n).slack + n ≤ s.slack := by
  induction n with
  | zero => exact Nat.le_refl _
  | succ n ih =>
    -- The whole run is still, so its last tick is and so are the ticks before it.
    have last := ticked_onward (w := w) s (Nat.le_succ n)
    have start := ticked_onward (w := w) s (Nat.zero_le n)
    have parts := h.split start last
    have rest := ih (fun e he => lasts e (last.mem he)) parts.1
    rw [ticked_succ] at lasts parts ⊢
    have used := (tick_still w (hs.onward start) (hr.ticked n) unasked lasts parts.2).2
    omega

lemma ticked_not_still {n : Nat} (hs : s.Paced) (hr : s.Resumable)
    (unasked : ∀ outside now, w.stopRequested outside now = false)
    (lasts : ∀ e ∈ (s.ticked w n).journal, e.lasts) (hn : 2 * s.catalog.size < n) :
    ¬ Still s (s.ticked w n) := by
  intro still
  have start := ticked_onward (w := w) s (Nat.zero_le n)
  have rest : Onward (s.tick w).2 (s.ticked w n) :=
    ticked_onward s (Nat.succ_le_of_lt (Nat.zero_lt_of_lt hn))
  have first := (still.split ((tick_moves w s).onward (by decide)) rest).1
  have nonempty := (tick_still w hs hr unasked (fun e he => lasts e (rest.mem he)) first).1
  have some := slack_pos (hr.ticked (w := w) n) (start.catalog ▸ nonempty)
  have used := ticked_slack hs hr unasked lasts still
  have bound := s.slack_le
  omega

lemma ticked_moves_or_stands (s : Scheduler γ σ) (n : Nat) :
    (∃ i < n, (s.ticked w i).clock < (s.ticked w (i + 1)).clock) ∨
      (s.ticked w n).clock = s.clock := by
  induction n with
  | zero => exact .inr rfl
  | succ n ih =>
    rcases ih with ⟨i, hi, moved⟩ | stood
    · exact .inl ⟨i, Nat.lt_succ_of_lt hi, moved⟩
    · rcases Nat.lt_or_eq_of_le (ticked_onward (w := w) s (Nat.le_succ n)).clock with moved | same
      · exact .inl ⟨n, Nat.lt_succ_self n, moved⟩
      · exact .inr (same.symm.trans stood)

/-- Ticks do not spin: with `N` screens and `P` providers, at least one of `2 * (N + P) + 1` ticks in a
row moves the clock, unless a stop is asked for, a deadline comes or a command does. -/
theorem ticks_move_clock (u : Setup γ σ) (w : World σ) (ops : List (Operation σ)) :
    let settings := u.settings.repaired.value
    let n := 2 * (u.catalog.screens.length + u.catalog.providers.length) + 1
    let s := u.scheduler.performAll w ops
    1 ≤ settings.normalSpan → 1 ≤ settings.highRateInterval → 1 ≤ settings.liveCheckSpan →
    s.deadline = none → (∀ outside now, w.stopRequested outside now = false) →
    (s.ticked w n).journal.countP Event.isTaken = s.journal.countP Event.isTaken →
    (∀ e ∈ (s.ticked w n).journal, e.lasts) →
    (∀ i < n, ∀ screen, ((s.ticked w i).tick w).1 ≠ .stalled screen) ∧
      ∃ i < n, (s.ticked w i).clock < (s.ticked w (i + 1)).clock := by
  intro settings n s normal highRate liveCheck deadline unasked taken lasts
  have kept : s.settings = settings ∧ s.catalog = u.catalog :=
    performAll_of_moves (P := fun s => s.settings = settings ∧ s.catalog = u.catalog)
      (fun _ _ _ move h => ⟨move.kept.settings.trans h.1, move.kept.catalog.trans h.2⟩) ⟨rfl, rfl⟩ ops
  have paced : s.Paced := by
    rw [← kept.1] at normal highRate liveCheck
    exact ⟨normal, highRate, liveCheck, deadline⟩
  have resumable : s.Resumable := performAll_resumable u w ops
  refine ⟨fun i _ => tick_ne_stalled w (paced.onward (ticked_onward s (Nat.zero_le i))), ?_⟩
  rcases ticked_moves_or_stands (w := w) s n with moved | stood
  · exact moved
  · have enough : 2 * s.catalog.size < n := by
      rw [kept.2]
      exact Nat.lt_succ_self _
    exact absurd ⟨stood, taken⟩ (ticked_not_still paced resumable unasked lasts enough)

def lonelyClock : Setup AlwaysHealthy Script :=
  { Script.setup { polls := [[.startMode "1" "clock"]] } with
    catalog := { providers := ["clock"], screens := [⟨"clock", "clock"⟩] } }

def clockBreaks : List (Operation Script) :=
  [.poll, .tick, .meanwhile 0 { live := [⟨"clock", "clock"⟩], broken := [⟨"clock", "clock"⟩] } none]

theorem fifth_tick_moves_clock :
    let s := lonelyClock.scheduler.performAll Script.world clockBreaks
    s.session.isActive ∧ (s.ticked Script.world 4).clock = s.clock ∧
      ∃ i < 5, (s.ticked Script.world i).clock < (s.ticked Script.world (i + 1)).clock := by
  intro s
  have moved := (ticks_move_clock lonelyClock Script.world clockBreaks (by decide +kernel)
    (by decide +kernel) (by decide +kernel) rfl (fun _ _ => rfl) (by decide +kernel)
    (by decide +kernel)).2
  exact ⟨by decide +kernel, by decide +kernel, moved⟩

end Marquee.Scheduler
