import Mathlib.Data.List.Induction
import Marquee.Proofs.Rotation.Lapses
import Marquee.Proofs.Scheduler.Clock
import Marquee.Proofs.Script
import Marquee.Proofs.Showing.Watching

/-! Frames of rotation and live content rest on a search for live content that was made in the same tick,
and that is never older than the check interval. -/

namespace Marquee

def Selection.expects (selection : Selection) : Option Screen :=
  match selection.source with
  | .live => some selection.screen
  | _ => none

def Event.isSought : Event → Bool
  | .liveSought _ _ => true
  | _ => false

def Journal.sought? : Journal → Option (Option Screen × Instant)
  | [] => none
  | .liveSought found t :: _ => some (found, t)
  | _ :: j => sought? j

def Event.Covered (span : Span) (e : Event) (before : Journal) : Prop :=
  match e with
  | .drawn f => f.source ≠ .onDemand → ∃ t, before.sought? = some (f.selection.expects, t) ∧
      t ≤ f.time ∧ (t = f.time ∨ Instant.since f.time t < span)
  | _ => True

lemma Journal.sought?_append {new j : Journal} (h : ∀ e ∈ new, e.isSought = false) :
    Journal.sought? (new ++ j) = j.sought? := by
  induction new with
  | nil => rfl
  | cons e new ih =>
    have rest := ih fun e he => h e (List.mem_cons_of_mem _ he)
    have first := h e List.mem_cons_self
    cases e <;> first | exact rest | cases first

lemma Journal.split_cases {later before new old : Journal} {e : Event}
    (h : later ++ e :: before = new ++ old) :
    (∃ during, new = later ++ e :: during ∧ before = during ++ old) ∨
      ∃ later', old = later' ++ e :: before := by
  rcases List.append_eq_append_iff.mp h with ⟨mid, hnew, hmid⟩ | ⟨later', -, hold⟩
  · cases mid with
    | nil => exact .inr ⟨[], hmid.symm⟩
    | cons first during =>
      obtain ⟨rfl, rfl⟩ := List.cons.inj hmid
      exact .inl ⟨during, hnew, rfl⟩
  · exact .inr ⟨later', hold⟩

lemma Event.isSought_of_leftBy {e : Event} {kind : MoveKind} (hk : kind ≠ .inquired)
    (h : kind ∈ e.leftBy) : e.isSought = false := by
  cases e <;> simp_all [Event.leftBy, Event.isSought]

lemma Selection.expects_of_not_yieldsTo {p : Showing} {found : Option Screen}
    (h : p.yieldsTo found = false) (hs : p.selection.source ≠ .onDemand) :
    found = p.selection.expects := by
  rw [Showing.yieldsTo] at h
  rw [Selection.expects]
  cases hsource : p.selection.source with
  | onDemand => exact absurd hsource hs
  | live =>
    rw [hsource] at h
    exact of_decide_eq_false h |> Decidable.not_not.mp
  | rotation index =>
    rw [hsource] at h
    simpa using h

namespace Scheduler

variable {γ σ : Type} {s s' s'' : Scheduler γ σ} {start : Journal} {selection : Selection}

def Since (start : Journal) (P : Journal → Prop) (s : Scheduler γ σ) : Prop :=
  ∃ during, s.journal = during ++ start ∧ P during

lemma Since.and {P Q : Journal → Prop} (hP : s.Since start P) (hQ : s.Since start Q) :
    s.Since start fun during => P during ∧ Q during := by
  obtain ⟨during, hj, hP⟩ := hP
  obtain ⟨during', hj', hQ⟩ := hQ
  obtain rfl := List.append_cancel_right (hj.symm.trans hj')
  exact ⟨during, hj, hP, hQ⟩

structure Heedless (s s' : Scheduler γ σ) : Prop where
  settings : s'.settings = s.settings
  clock : s.clock ≤ s'.clock
  lastLiveCheck : s'.lastLiveCheck = s.lastLiveCheck
  journal : ∃ new, s'.journal = new ++ s.journal ∧ ∀ e ∈ new, e.isSought = false

def Watched (start : Journal) (selection : Selection) (s : Scheduler γ σ) : Prop :=
  ∃ t, s.Since start (fun during => during.sought? = some (selection.expects, t)) ∧
    s.lastLiveCheck = some t ∧ t ≤ s.clock

namespace Heedless

lemma refl (s : Scheduler γ σ) : Heedless s s :=
  ⟨rfl, Nat.le_refl _, rfl, [], rfl, by simp⟩

lemma trans (h : Heedless s s') (h' : Heedless s' s'') : Heedless s s'' := by
  obtain ⟨new, hj, hnew⟩ := h.journal
  obtain ⟨new', hj', hnew'⟩ := h'.journal
  refine ⟨h'.settings.trans h.settings, Nat.le_trans h.clock h'.clock,
    h'.lastLiveCheck.trans h.lastLiveCheck, new' ++ new, by rw [hj', hj, List.append_assoc], ?_⟩
  intro e he
  rcases List.mem_append.mp he with he | he
  · exact hnew' e he
  · exact hnew e he

lemma since (h : Heedless s s') {answer : Option (Option Screen × Instant)}
    (hs : s.Since start fun during => during.sought? = answer) :
    s'.Since start fun during => during.sought? = answer := by
  obtain ⟨new, hj, hnew⟩ := h.journal
  obtain ⟨during, hduring, sought⟩ := hs
  exact ⟨new ++ during, by rw [hj, hduring, List.append_assoc],
    (Journal.sought?_append hnew).trans sought⟩

lemma watched (h : Heedless s s') (hs : s.Watched start selection) : s'.Watched start selection := by
  obtain ⟨t, sought, known, le⟩ := hs
  exact ⟨t, h.since sought, h.lastLiveCheck.trans known, Nat.le_trans le h.clock⟩

end Heedless

lemma note_heedless (s : Scheduler γ σ) (ns : List Notice) : Heedless s (s.note ns) :=
  ⟨rfl, Nat.le_refl _, rfl, (ns.map Event.notice).reverse, rfl, by simp [Event.isSought]⟩

lemma openShowing_watched (w : World σ) (hs : s.Since start fun during =>
      during.sought? = some (selection.expects, s.clock)) :
    (s.openShowing w selection).2.Watched start selection := by
  obtain ⟨restarts, ns, ns', outside, counters, lastDynamic, hopen, hr⟩ :=
    openShowing_eq w selection s
  have noted := ((note_heedless s ns).trans (note_heedless _ ns')).since hs
  rw [hopen]
  refine ⟨s.clock, ?_, rfl, Nat.le_refl _⟩
  obtain ⟨during, hj, sought⟩ := noted
  refine ⟨restarts ++ .opened selection (s.airtimeFor w selection.screen).value s.clock :: during,
    by simp [hj], ?_⟩
  refine (Journal.sought?_append fun e he => ?_).trans sought
  rw [hr e he]
  rfl

lemma judge_heedless (w : World σ) (p : Showing) (s : Scheduler γ σ) :
    Heedless s (s.judge w p).2 := by
  have asked : Heedless s (s.askCycle w p).2 := by
    rw [askCycle]
    split
    · dsimp only
      split
      · exact (note_heedless s _).trans ⟨rfl, Nat.le_refl _, rfl, [_], rfl, by simp [Event.isSought]⟩
      · exact .refl s
    · exact .refl s
  unfold judge
  dsimp only
  split <;> exact asked

def WatchedAt (start : Journal) : Stage → Scheduler γ σ → Prop
  | .chosen selection, s => selection.source ≠ .onDemand →
      s.Since start fun during => during.sought? = some (selection.expects, s.clock)
  | .showing p _, s | .drawn p _ _, s => p.selection.source ≠ .onDemand → s.Watched start p.selection
  | _, _ => True

variable [HealthGate γ] {w : World σ} {kind : MoveKind} {kinds : List MoveKind}

lemma Move.heedless (h : Move w kind s s') (hk : kind ∉ [.inquired, .looked, .opened]) :
    Heedless s s' := by
  obtain ⟨new, hj, left⟩ := h.entries
  exact ⟨h.kept.settings, h.clock_le, h.kept.lastLiveCheck (by simp_all), new, hj,
    fun e he => Event.isSought_of_leftBy (by rintro rfl; simp at hk) (left e he).1⟩

lemma Moves.heedless (h : Moves w kinds s s')
    (hk : ∀ kind ∈ kinds, kind ∉ [.inquired, .looked, .opened]) : Heedless s s' :=
  h.preserve .refl (fun _ _ _ => .trans) fun kind hm _ _ move => move.heedless (hk kind hm)

lemma Moves.undrawn (h : Moves w kinds s s') (hk : .drew ∉ kinds) :
    s'.Since s.journal fun new => ∀ f, .drawn f ∉ new := by
  refine h.keep (P := Since s.journal fun new => ∀ f, .drawn f ∉ new) (fun kind hm a b move ha => ?_)
    ⟨[], rfl, by simp⟩
  obtain ⟨during, hj, none⟩ := ha
  obtain ⟨new, hnew, left⟩ := move.entries
  refine ⟨new ++ during, by rw [hnew, hj, List.append_assoc], fun f he => ?_⟩
  rcases List.mem_append.mp he with he | he
  · have drew := List.mem_singleton.mp (left _ he).1
    exact hk (drew ▸ hm)
  · exact none f he

lemma Moves.covered (h : Moves w kinds s s') {span : Span} (hk : .drew ∉ kinds)
    (hs : s.Since start (·.Always (Event.Covered span))) :
    s'.Since start (·.Always (Event.Covered span)) := by
  obtain ⟨during, hj, law⟩ := hs
  obtain ⟨new, hnew, none⟩ := h.undrawn hk
  refine ⟨new ++ during, by rw [hnew, hj, List.append_assoc], law.append fun e he j => ?_⟩
  cases e with
  | drawn f => exact absurd he (none f)
  | _ => trivial

lemma seekLive_since (w : World σ) (hs : s.Since start fun _ => True) :
    (s.seekLive w).2.Since start fun during => during.sought? = some ((s.seekLive w).1, s.clock) := by
  obtain ⟨during, hj, -⟩ := hs
  let notices := (Live.find s.catalog (w.answers s.outside s.clock) s.barred).notices
  refine ⟨.liveSought (s.seekLive w).1 s.clock :: ((notices.map Event.notice).reverse ++ during), ?_, rfl⟩
  rw [List.cons_append, List.append_assoc, ← hj]
  rfl

lemma select_sought (h : (s.select w).1 = some selection) (hs : selection.source ≠ .onDemand) :
    (s.select w).2 = (s.seekLive w).2 ∧ (s.seekLive w).1 = selection.expects := by
  rw [select] at h ⊢
  cases hd : s.session.screen? with
  | some screen =>
    rw [hd] at h
    obtain rfl := Option.some.inj h
    exact absurd rfl hs
  | none =>
    rw [hd] at h
    dsimp only at h ⊢
    cases hf : (s.seekLive w).1 with
    | some screen =>
      rw [hf] at h
      obtain rfl := Option.some.inj h
      exact ⟨rfl, rfl⟩
    | none =>
      rw [hf] at h
      obtain ⟨screen, -, rfl⟩ := Option.map_eq_some_iff.mp h
      exact ⟨rfl, rfl⟩

lemma judged_heedless (w : World σ) (p : Showing) (first : Bool) (s : Scheduler γ σ) :
    Heedless s ((s.acknowledge p first).judge w p).2 :=
  ((acknowledge_moves w s p first).heedless (by decide)).trans (judge_heedless w p _)

lemma looked_watched (w : World σ) (ns : List Notice) (hs : s.Since start fun _ => True)
    (found : (s.seekLive w).1 = selection.expects) :
    ((s.looked w).note ns).Watched start selection ∧ ((s.looked w).note ns).clock = s.clock := by
  have sought := seekLive_since (s := { s with lastLiveCheck := some s.clock }) w hs
  have same : (seekLive w { s with lastLiveCheck := some s.clock }).1 = selection.expects := found
  rw [same] at sought
  exact ⟨⟨s.clock, (note_heedless _ ns).since sought, rfl, Nat.le_refl _⟩, rfl⟩

lemma preemptionPending_watched {p : Showing} (stay : (s.preemptionPending w p).1 = false)
    (hp : p.selection.source ≠ .onDemand) (hs : s.Watched start p.selection) :
    let s₁ := (s.preemptionPending w p).2
    ∃ t, s₁.Since start (fun during => during.sought? = some (p.selection.expects, t)) ∧
      s₁.lastLiveCheck = some t ∧ t ≤ s₁.clock ∧
      (t = s₁.clock ∨ Instant.since s₁.clock t < s.settings.liveCheckSpan) := by
  obtain ⟨unheard, -, live⟩ := preemptionPending_eq_of_false w s stay
  have heedless := (pollOnDemand_moves_of_false w s unheard).heedless (by decide)
  obtain ⟨t, sought, known, le⟩ := heedless.watched hs
  rw [live] at stay ⊢
  cases looks : (s.pollOnDemand w).2.looks p with
  | true =>
    obtain ⟨ns, sees⟩ := livePreempts_of_looks w looks
    rw [sees] at stay ⊢
    have found := Selection.expects_of_not_yieldsTo stay hp
    obtain ⟨during, hj, -⟩ := sought
    obtain ⟨⟨t', sought', known', le'⟩, clock⟩ := looked_watched w ns ⟨during, hj, trivial⟩ found
    exact ⟨t', sought', known', le', .inl (Option.some.inj (known'.symm.trans (congrArg some clock.symm)))⟩
  | false =>
    rw [livePreempts_of_not_looks w looks]
    have recent : Instant.since (s.pollOnDemand w).2.clock t < (s.pollOnDemand w).2.settings.liveCheckSpan := by
      simpa [Scheduler.looks, hp, known] using looks
    rw [heedless.settings] at recent
    exact ⟨t, sought, known, le, .inr recent⟩

variable {a b : Stage × Scheduler γ σ} {span : Span}

lemma Step.covered (h : Step w a b) (he : EntitledAt a.1 a.2)
    (hspan : a.2.settings.liveCheckSpan = span)
    (law : a.2.Since start (·.Always (Event.Covered span))) (watched : WatchedAt start a.1 a.2) :
    b.2.Since start (·.Always (Event.Covered span)) ∧ WatchedAt start b.1 b.2 := by
  by_cases hd : b.1.isDrawn
  · cases h with
    | drew s p first _ _ stay =>
      have checked := fun hp => preemptionPending_watched stay hp (watched hp)
      refine ⟨?_, fun hp => ?_⟩
      · -- The search that lets the showing go on is among the entries that the frame is added to.
        obtain ⟨during, hj, always⟩ := (preemptionPending_moves w s p).covered (by decide) law
        refine ⟨.drawn _ :: during, congrArg _ hj, fun hp => ?_, always⟩
        obtain ⟨t, ⟨during', hj', sought⟩, -, le, recent⟩ := checked hp
        obtain rfl := List.append_cancel_right (hj.symm.trans hj')
        exact ⟨t, sought, le, hspan ▸ recent⟩
      · obtain ⟨t, ⟨during, hj, sought⟩, known, le, -⟩ := checked hp
        exact ⟨t, ⟨.drawn _ :: during, congrArg _ hj, sought⟩, known, Nat.le_trans le (Nat.le_add_right _ _)⟩
    | _ => cases hd
  · refine ⟨(h.undrawn (by simpa using hd) he).covered (by decide) law, ?_⟩
    cases h with
    | chose s selection _ some =>
      intro hs
      obtain ⟨chosen, found⟩ := select_sought some hs
      obtain ⟨during, hj, -⟩ := ((Moves.single (.counted s _)).andThen
        (prepare_moves w s.counted)).covered (by decide) law
      have sought := seekLive_since w (s := s.counted.prepare w) ⟨during, hj, trivial⟩
      rw [found, ← chosen] at sought
      have clock : (s.chosen w).2.clock = (s.counted.prepare w).clock := by
        rw [Scheduler.chosen, chosen]
        rfl
      rwa [← clock] at sought
    | opened s selection => exact fun hs => openShowing_watched w (watched hs)
    | rested s p first =>
      -- A rest seeks nothing, so the next frame may still rest on the search before it.
      have heedless := (judged_heedless w p first s).trans ((rest_moves w _ p).heedless (by decide))
      exact fun hs => heedless.watched (watched hs)
    | drew => exact absurd rfl hd
    | _ => trivial

lemma tick_covered (w : World σ) (s : Scheduler γ σ) :
    (s.tick w).2.Since s.journal (·.Always (Event.Covered s.settings.liveCheckSpan)) := by
  refine ((tick_steps w s).invariant_of_entitled (fun stage s' =>
    s'.settings = s.settings ∧ s'.Since s.journal (·.Always (Event.Covered s.settings.liveCheckSpan)) ∧
      WatchedAt s.journal stage s') (fun a b step he ha => ?_) trivial
    ⟨rfl, ⟨[], rfl, trivial⟩, trivial⟩).2.1
  obtain ⟨settings, law, watched⟩ := ha
  exact ⟨((step.moves he).onward (by decide)).settings.trans settings,
    step.covered he (by rw [settings]) law watched⟩

lemma Moves.undrawn_covered (h : Moves w kinds s s') (hk : .drew ∉ kinds) {P : Prop} :
    s'.Since s.journal fun new =>
      new.Always (Event.Covered s.settings.liveCheckSpan) ∧ ∀ f, .drawn f ∈ new → P := by
  have none_yet : s.Since s.journal (·.Always (Event.Covered s.settings.liveCheckSpan)) :=
    ⟨[], rfl, trivial⟩
  obtain ⟨new, hj, law, none⟩ := (h.covered hk none_yet).and (h.undrawn hk)
  exact ⟨new, hj, law, fun f he => absurd he (none f)⟩

lemma perform_covered (w : World σ) (s : Scheduler γ σ) (op : Operation σ) :
    (s.perform w op).Since s.journal fun new =>
      new.Always (Event.Covered s.settings.liveCheckSpan) ∧ ∀ f, .drawn f ∈ new → op = .tick := by
  cases op with
  | tick =>
    obtain ⟨new, hj, law⟩ := tick_covered w s
    exact ⟨new, hj, law, fun _ _ => rfl⟩
  | poll => exact (pollOnDemand_moves w s).undrawn_covered (by decide)
  | expire => exact (checkExpiration_moves w s).undrawn_covered (by decide)
  | advance => exact (Moves.single (.rotated (w := w) s)).undrawn_covered (by decide)
  | meanwhile span outside deadline =>
    exact (Moves.single (.elapsed (w := w) s span outside deadline)).undrawn_covered (by decide)

/-- Each frame of rotation comes after a search in its tick that found nothing, and each frame of live
content after one that found its screen. It is the latest search before the frame, and it was made at the
instant of the frame or less than a check interval before it. -/
theorem frames_rest_on_recent_search (u : Setup γ σ) (w : World σ) (ops : List (Operation σ))
    (later before : Journal) (f : Frame)
    (hj : (u.scheduler.performAll w ops).journal = later ++ .drawn f :: before)
    (hs : f.source ≠ .onDemand) :
    ∃ (earlier rest : List (Operation σ)) (after during : Journal) (t : Instant),
      ops = earlier ++ .tick :: rest ∧
      (u.scheduler.performAll w (earlier ++ [.tick])).journal = after ++ .drawn f :: before ∧
      before = during ++ (u.scheduler.performAll w earlier).journal ∧
      during.sought? = some (f.selection.expects, t) ∧ t ≤ f.time ∧
      (t = f.time ∨ Instant.since f.time t < u.scheduler.settings.liveCheckSpan) := by
  induction ops using List.reverseRecOn generalizing later with
  | nil => simp [performAll] at hj
  | append_singleton ops op ih =>
    have step : u.scheduler.performAll w (ops ++ [op]) = (u.scheduler.performAll w ops).perform w op := by
      simp [performAll]
    have settings : (u.scheduler.performAll w ops).settings = u.scheduler.settings :=
      performAll_of_moves (P := fun s => s.settings = u.scheduler.settings)
        (fun _ _ _ move hs => move.kept.settings.trans hs) rfl ops
    obtain ⟨new, hnew, law, ticked⟩ := perform_covered w (u.scheduler.performAll w ops) op
    rcases Journal.split_cases ((step ▸ hj).symm.trans hnew) with ⟨during, rfl, hduring⟩ | ⟨later', old⟩
    · obtain rfl := ticked f (List.mem_append_right later List.mem_cons_self)
      obtain ⟨t, sought, le, recent⟩ := law.of_split hs
      exact ⟨ops, [], later, during, t, rfl, hj, hduring, sought, le, settings ▸ recent⟩
    · obtain ⟨earlier, rest, after, during, t, rfl, hafter, hduring, fresh⟩ := ih later' old
      exact ⟨earlier, rest ++ [op], after, during, t, by simp, hafter, hduring, fresh⟩

def halfSeconds : Setup AlwaysHealthy Script :=
  { Script.setup { live := [⟨"scores_live", "scores"⟩] } with
    settings := { defaultDuration := 1, normalInterval := 0.5 } }

theorem second_frame_rests_on_first_search :
    ∃ (later before : Journal) (f : Frame) (t : Instant),
      (halfSeconds.scheduler.performAll Script.world [.tick]).journal = later ++ .drawn f :: before ∧
      f.time = 500000000 ∧ before.sought? = some (some ⟨"scores_live", "scores"⟩, t) ∧
      t ≤ f.time ∧ Instant.since f.time t < 1000000000 := by
  let j := (halfSeconds.scheduler.performAll Script.world [.tick]).journal
  obtain ⟨f, drawn, time, live⟩ : ∃ f ∈ j.at? 2 Event.frame?,
      f.time = 500000000 ∧ f.selection = ⟨⟨"scores_live", "scores"⟩, .live⟩ := by
    decide +kernel
  have hj := Journal.split_at_frame drawn
  have source : f.source = .live := congrArg Selection.source live
  obtain ⟨earlier, rest, after, during, t, hops, -, hbefore, sought, le, recent⟩ :=
    frames_rest_on_recent_search halfSeconds Script.world [.tick] _ _ f hj (by simp [source])
  obtain rfl : earlier = [] := by
    cases earlier with
    | nil => rfl
    | cons => simp at hops
  have span : halfSeconds.scheduler.settings.liveCheckSpan = 1000000000 := by decide +kernel
  refine ⟨_, _, f, t, hj, time, ?_, le, ?_⟩
  · rw [hbefore, show during ++ (halfSeconds.scheduler.performAll Script.world []).journal = during from
      List.append_nil during, sought, live]
    rfl
  · rcases recent with rfl | recent
    · simp [Instant.since]
    · exact span ▸ recent

end Scheduler

end Marquee
