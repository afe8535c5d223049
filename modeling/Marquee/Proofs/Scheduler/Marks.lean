import Marquee.Proofs.Rotation.Advance
import Marquee.Proofs.Scheduler.Calm

namespace Marquee.Scheduler

variable {γ σ : Type}

lemma target_mem {c : Catalog} {mode : Option ModeId} {provider : Option ProviderId}
    {screen : Screen} (h : target c mode provider = .ok screen) : screen ∈ c.screens := by
  unfold target at h
  split at h
  · split at h
    · cases h
    next found => cases h; exact List.mem_of_find?_eq_some found
    next found =>
      split at h
      · cases h; exact List.mem_of_find?_eq_some found
      · cases h
  · cases h
  · split at h
    next found => cases h; exact List.mem_of_find?_eq_some found
    · cases h

lemma resolveRequest_mem {c : Catalog} {r : Request} {screen : Screen}
    (h : resolveRequest c r = .ok screen) : screen ∈ c.screens := by
  rw [resolveRequest] at h
  cases hd : checkDuration r.duration with
  | error _ => simp [hd, bind, Except.bind] at h
  | ok _ =>
    cases hp : checkProvider c (nonEmpty r.provider) with
    | error _ => simp [hd, hp, bind, Except.bind] at h
    | ok _ =>
      simp only [hd, hp, bind, Except.bind] at h
      exact target_mem h

def resumeIndex? (s : Scheduler γ σ) : Option Nat :=
  if s.session.isActive then s.session.resume?
  else if s.rotation.screens.isEmpty then none else some s.rotation.index

lemma startSession_eq (s : Scheduler γ σ) (screen : Screen) (r : Request) :
    ∃ (ns ns' : List Notice) (session : Session) (running : RunningSession),
      s.startSession screen r = { (s.note ns).note ns' with session }.log
        (.sessionBegun session s.rotation s.clock) ∧
      session.running = some running ∧ running.screen = screen ∧
      running.resume = s.resumeIndex? :=
  ⟨_, _, _, _, rfl, rfl, rfl, rfl⟩

lemma leaveSession_marks (s : Scheduler γ σ) (ended : Session) (n : Notice) :
    ∃ (ns : List Notice) (rotation : Rotation), s.leaveSession ended n =
      { s.note ns with session := ended, rotation, redraw := true }.log
        (.sessionOver ended rotation s.clock) := by
  rw [leaveSession]
  cases hr : s.session.resume? with
  | none => exact ⟨[n], s.rotation, rfl⟩
  | some index =>
    refine ⟨n :: (s.rotation.restore index).notices, (s.rotation.restore index).value.2, ?_⟩
    simp [restoreRotation, absorb, note, log]

def resumed (s : Scheduler γ σ) : Rotation :=
  { s.rotation with index := s.session.resume?.getD s.rotation.index }

lemma leaveSession_eq (s : Scheduler γ σ) (ended : Session) (n : Notice)
    (h : ∀ index, s.session.resume? = some index → index < s.rotation.screens.length) :
    s.leaveSession ended n =
      { s.note [n] with session := ended, rotation := s.resumed, redraw := true }.log
        (.sessionOver ended s.resumed s.clock) := by
  unfold leaveSession resumed
  cases hr : s.session.resume? with
  | none => rfl
  | some index =>
    have hrestore : s.rotation.restore index = pure (true, { s.rotation with index }) :=
      if_pos (h index hr)
    have hleft : ({ s with session := ended }.note [n]).restoreRotation (some index) =
        { s.note [n] with session := ended, rotation := { s.rotation with index } } := by
      change ({ ((({ s with session := ended }.note [n]).note
        (s.rotation.restore index).notices)) with
          rotation := (s.rotation.restore index).value.2 } : Scheduler γ σ) = _
      rw [hrestore]
      rfl
    simp only [hleft]
    rfl

section

variable (s : Scheduler γ σ)

@[simp] lemma advanceRotation_rotation : s.advanceRotation.rotation = s.rotation.advance := rfl

@[simp] lemma advanceRotation_catalog : s.advanceRotation.catalog = s.catalog := by
  rw [advanceRotation]
  dsimp only
  split <;> rfl

@[simp] lemma advanceRotation_session : s.advanceRotation.session = s.session := by
  rw [advanceRotation]
  dsimp only
  split <;> rfl

lemma advanceRotation_journal : s.advanceRotation.journal =
    if s.rotation.screens.isEmpty then s.journal else .rotated s.rotation.advance :: s.journal := by
  rw [advanceRotation]
  dsimp only
  rw [Rotation.screens_advance]
  split <;> rfl

end

lemma announce_calm (selection : Selection) (airtime : Airtime) (forceClear : Bool)
    (s : Scheduler γ σ) : Calm Event.isLoud s (s.announce selection airtime forceClear) := by
  rw [announce]
  dsimp only
  split
  · exact ⟨⟨rfl, [_], rfl, by simp [Event.isLoud]⟩, rfl, rfl⟩
  · exact ⟨⟨rfl, [], rfl, by simp⟩, rfl, rfl⟩

lemma trackCycle_calm (w : World σ) (screen : Screen) (dynamic : Bool) (s : Scheduler γ σ) :
    Calm Event.isLoud s (s.trackCycle w screen dynamic) := by
  rw [trackCycle]
  split
  · split
    · exact .refl s
    · exact ⟨⟨rfl, [_], rfl, by simp [Event.isLoud]⟩, rfl, rfl⟩
  · exact ⟨⟨rfl, [], rfl, by simp⟩, rfl, rfl⟩

lemma openShowing_marks (w : World σ) (selection : Selection) (s : Scheduler γ σ) :
    ∃ s₁ airtime, Calm Event.isLoud s s₁ ∧
      Calm Event.isLoud (s₁.log (.opened selection airtime s.clock))
        (s.openShowing w selection).2 := by
  let found := s.absorb (s.airtimeFor w selection.screen)
  let forceClear : Bool := s.redraw || s.lastShown ≠ some selection.screen
  let announced := found.2.announce selection found.1 forceClear
  refine ⟨announced, found.1, ?_, ?_⟩
  · exact (calm_note s _).trans (announce_calm selection found.1 forceClear found.2)
  · exact (trackCycle_calm w selection.screen found.1.dynamic _).trans
      ⟨⟨rfl, [], rfl, by simp⟩, rfl, rfl⟩

lemma announce_eq (selection : Selection) (airtime : Airtime) (forceClear : Bool)
    (s : Scheduler γ σ) : ∃ (ns : List Notice) (activations : Nat),
      s.announce selection airtime forceClear =
        { s.note ns with counters := { s.counters with activations }, redraw := false } := by
  cases forceClear with
  | true => exact ⟨[_], _, rfl⟩
  | false => exact ⟨[], s.counters.activations, rfl⟩

def restartsCycle (s : Scheduler γ σ) (screen : Screen) (dynamic : Bool) : Bool :=
  dynamic && s.lastDynamic ≠ some screen

lemma trackCycle_eq (w : World σ) (screen : Screen) (dynamic : Bool) (s : Scheduler γ σ) :
    let anew := s.restartsCycle screen dynamic
    s.trackCycle w screen dynamic = { s with
      journal := (if anew then [.cycleRestarted screen.provider s.clock] else []) ++ s.journal
      outside := if anew then w.restartCycle s.outside screen.provider else s.outside
      lastDynamic := if dynamic then some screen else none } := by
  cases dynamic with
  | false => rfl
  | true =>
    by_cases same : s.lastDynamic = some screen
    · simp [trackCycle, restartsCycle, ← same]
    · simp [trackCycle, restartsCycle, log, same]

lemma openShowing_made (w : World σ) (selection : Selection) (s : Scheduler γ σ) :
    let airtime := (s.airtimeFor w selection.screen).value
    let anew := s.restartsCycle selection.screen airtime.dynamic
    ∃ (ns ns' : List Notice) (activations : Nat), (s.openShowing w selection).2 = { s with
      journal := (if anew then [.cycleRestarted selection.screen.provider s.clock] else []) ++
        .opened selection airtime s.clock :: ((s.note ns).note ns').journal
      outside := if anew then w.restartCycle s.outside selection.screen.provider else s.outside
      counters := { s.counters with activations }
      lastDynamic := if airtime.dynamic then some selection.screen else none
      redraw := false
      lastShown := some selection.screen
      rotation := { s.rotation with onDisplay := some selection.screen }
      lastLiveCheck := some s.clock } := by
  intro airtime anew
  let found := (s.absorb (s.airtimeFor w selection.screen)).2
  let forceClear : Bool := s.redraw || s.lastShown ≠ some selection.screen
  obtain ⟨ns, activations, announced⟩ := announce_eq selection airtime forceClear found
  let written : Scheduler γ σ :=
    { found.note ns with counters := { s.counters with activations }, redraw := false }.log
      (.opened selection airtime s.clock)
  have logged : (found.announce selection airtime forceClear).log (.opened selection airtime s.clock) = written :=
    congrArg (fun t : Scheduler γ σ => t.log (.opened selection airtime s.clock)) announced
  have shown : (s.openShowing w selection).2 =
      (fun t : Scheduler γ σ => { t with
        lastShown := some selection.screen
        rotation := { t.rotation with onDisplay := some selection.screen }
        lastLiveCheck := some t.clock })
        (((found.announce selection airtime forceClear).log
          (.opened selection airtime s.clock)).trackCycle w selection.screen airtime.dynamic) := rfl
  have same : written.restartsCycle selection.screen airtime.dynamic = anew := by
    simp only [written, found, anew, restartsCycle, absorb, log, note]
  refine ⟨(s.airtimeFor w selection.screen).notices, ns, activations, ?_⟩
  rw [shown, logged, trackCycle_eq, same]
  simp only [written, found, absorb, log, note]

lemma openShowing_eq (w : World σ) (selection : Selection) (s : Scheduler γ σ) :
    ∃ (restarts : Journal) (ns ns' : List Notice) (outside : σ) (counters : Counters)
      (lastDynamic : Option Screen), (s.openShowing w selection).2 = { s with
        journal := restarts ++ .opened selection (s.airtimeFor w selection.screen).value s.clock ::
          ((s.note ns).note ns').journal
        outside
        counters
        lastDynamic
        redraw := false
        lastShown := some selection.screen
        rotation := { s.rotation with onDisplay := some selection.screen }
        lastLiveCheck := some s.clock } ∧
      ∀ e ∈ restarts, e = .cycleRestarted selection.screen.provider s.clock := by
  obtain ⟨ns, ns', activations, made⟩ := openShowing_made w selection s
  refine ⟨_, ns, ns', _, _, _, made, fun e he => ?_⟩
  split at he
  · exact List.mem_singleton.mp he
  · cases he

lemma draw_marks (w : World σ) (p : Showing) (forceClear : Bool) (s : Scheduler γ σ) :
    ∃ s₁, Calm Event.isLoud s s₁ ∧ (s.draw w p forceClear).2 = s₁.log (.drawn {
      screen := p.screen
      source := p.selection.source
      forceClear
      time := s.clock
      session := s.session
      drawing := (s.draw w p forceClear).1 }) := by
  refine ⟨{ s with
    outside := (s.draw w p forceClear).2.outside
    clock := (s.draw w p forceClear).2.clock }, ⟨⟨rfl, [], rfl, by simp⟩, rfl, rfl⟩, rfl⟩

lemma openShowing_calm {loud : Event → Bool} (w : World σ) (selection : Selection)
    (s : Scheduler γ σ) (quiet : ∀ e, e.isLoud = false → loud e = false)
    (opened : ∀ airtime t, loud (.opened selection airtime t) = false) :
    Calm loud s (s.openShowing w selection).2 := by
  obtain ⟨s₁, airtime, before, after⟩ := openShowing_marks w selection s
  exact ((before.mono quiet).trans (calm_log s₁ (opened airtime s.clock))).trans (after.mono quiet)

lemma draw_calm {loud : Event → Bool} (w : World σ) (p : Showing) (forceClear : Bool)
    (s : Scheduler γ σ) (quiet : ∀ e, e.isLoud = false → loud e = false)
    (drawn : ∀ f, loud (.drawn f) = false) : Calm loud s (s.draw w p forceClear).2 := by
  obtain ⟨s₁, before, hdraw⟩ := draw_marks w p forceClear s
  rw [hdraw]
  exact (before.mono quiet).trans (calm_log s₁ (drawn _))

end Marquee.Scheduler
