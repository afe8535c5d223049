import Marquee.Proofs.Scheduler.Kept
import Marquee.Proofs.Script

/-! Which frames clear the display. A frame without a clear goes over another screen only where a showing
used up the clear and ended before its first frame. -/

namespace Marquee

def Event.isDrawn : Event → Bool
  | .drawn _ => true
  | _ => false

namespace Journal

def clearsFor (screen : Screen) : Journal → Bool
  | [] => true
  | .opened selection _ _ :: _ => selection.screen ≠ screen
  | .rotated _ :: _ | .sessionOver _ _ _ :: _ => true
  | _ :: j => clearsFor screen j

/-- The showing that was opened last has yet to clear the display with its first frame. -/
def clearDue : Journal → Bool
  | [] => false
  | .opened selection _ _ :: j => clearsFor selection.screen j
  | .drawn _ :: _ => false
  | _ :: j => clearDue j

def opened? : Journal → Option Screen
  | [] => none
  | .opened selection _ _ :: _ => some selection.screen
  | _ :: j => opened? j

def drawn? : Journal → Option Screen
  | [] => none
  | .drawn f :: _ => some f.screen
  | _ :: j => drawn? j

variable {new j : Journal} {kind : MoveKind} {screen : Screen}

lemma clearsFor_append (hk : kind ∉ Scheduler.redrawKinds) (h : ∀ e ∈ new, kind ∈ e.leftBy) :
    clearsFor screen (new ++ j) = clearsFor screen j := by
  induction new with
  | nil => rfl
  | cons e new ih =>
    have left := h e List.mem_cons_self
    have rest := ih fun e he => h e (List.mem_cons_of_mem _ he)
    cases e with
    | opened | rotated | sessionOver =>
      rw [List.mem_singleton.mp left] at hk
      exact absurd (by decide) hk
    | _ => exact rest

lemma clearDue_append (hk : kind ≠ .opened ∧ kind ≠ .drew) (h : ∀ e ∈ new, kind ∈ e.leftBy) :
    clearDue (new ++ j) = clearDue j ∧ opened? (new ++ j) = opened? j := by
  induction new with
  | nil => exact ⟨rfl, rfl⟩
  | cons e new ih =>
    have left := h e List.mem_cons_self
    have rest := ih fun e he => h e (List.mem_cons_of_mem _ he)
    cases e with
    | opened => exact absurd (List.mem_singleton.mp left) hk.1
    | drawn => exact absurd (List.mem_singleton.mp left) hk.2
    | _ => exact rest

lemma drawn?_append (h : ∀ e ∈ new, e.isDrawn = false) : drawn? (new ++ j) = drawn? j := by
  induction new with
  | nil => rfl
  | cons e new ih =>
    have quiet := h e List.mem_cons_self
    have rest := ih fun e he => h e (List.mem_cons_of_mem _ he)
    cases e with
    | drawn => cases quiet
    | _ => exact rest

lemma restarts_append (h : ∀ e ∈ new, ∃ provider t, e = .cycleRestarted provider t) :
    (∀ screen, clearsFor screen (new ++ j) = clearsFor screen j) ∧
      clearDue (new ++ j) = clearDue j ∧ opened? (new ++ j) = opened? j := by
  induction new with
  | nil => exact ⟨fun _ => rfl, rfl, rfl⟩
  | cons e new ih =>
    obtain ⟨provider, t, rfl⟩ := h e List.mem_cons_self
    exact ih fun e he => h e (List.mem_cons_of_mem _ he)

lemma opened?_of_clearsFor (h : clearsFor screen j = false) : opened? j = some screen := by
  induction j with
  | nil => cases h
  | cons e j ih =>
    cases e with
    | opened selection airtime t => simpa [clearsFor, opened?] using h
    | rotated | sessionOver => cases h
    | _ => exact ih h

end Journal

def Event.Clears (e : Event) (before : Journal) : Prop :=
  match e with
  | .drawn f => before.opened? = some f.screen ∧ f.forceClear = before.clearDue
  | _ => True

lemma Event.clears_of_leftBy {e : Event} {kind : MoveKind} (hk : kind ≠ .drew) (h : kind ∈ e.leftBy)
    (before : Journal) : e.Clears before := by
  cases e with
  | drawn f => exact absurd (List.mem_singleton.mp h) hk
  | _ => trivial

/-- A showing of the screen was to clear the display and ended before its first frame. No frame came
after it, and the last one before it was of another screen. -/
def Journal.Spent (screen : Screen) (j : Journal) : Prop :=
  ∃ (mid older : Journal) (selection : Selection) (airtime : Airtime) (t : Instant),
    j = mid ++ .opened selection airtime t :: older ∧ selection.screen = screen ∧
    older.clearsFor screen ∧ (∀ e ∈ mid, e.isDrawn = false) ∧ older.drawn? ≠ some screen

namespace Journal

variable {j : Journal} {screen : Screen}

lemma Spent.cons {e : Event} (h : j.Spent screen) (he : e.isDrawn = false) :
    Spent screen (e :: j) := by
  obtain ⟨mid, older, selection, airtime, t, rfl, hs, clears, undrawn, other⟩ := h
  refine ⟨e :: mid, older, selection, airtime, t, rfl, hs, clears, ?_, other⟩
  intro e' he'
  rcases List.mem_cons.mp he' with rfl | he'
  · exact he
  · exact undrawn e' he'

lemma Spent.drawn?_ne (h : j.Spent screen) : j.drawn? ≠ some screen := by
  obtain ⟨mid, older, selection, airtime, t, rfl, -, -, undrawn, other⟩ := h
  rw [drawn?_append undrawn]
  exact other

lemma spent_of_not_clearsFor (law : j.Always Event.Clears) (h : clearsFor screen j = false)
    (other : j.drawn? ≠ some screen) : j.Spent screen := by
  induction j with
  | nil => cases h
  | cons e j ih =>
    cases e with
    | opened selection airtime t =>
      have same : selection.screen = screen := by simpa [clearsFor] using h
      by_cases clears : clearsFor screen j
      · exact ⟨[], j, selection, airtime, t, rfl, same, clears, by simp, other⟩
      · exact (ih law.2 (by simpa using clears) other).cons rfl
    | rotated | sessionOver => cases h
    | drawn f =>
      have last : opened? j = some screen := opened?_of_clearsFor h
      exact absurd (law.1.1.symm.trans last) other
    | _ => exact (ih law.2 h other).cons rfl

lemma spent_of_not_clearDue (law : j.Always Event.Clears) (last : j.opened? = some screen)
    (h : clearDue j = false) (other : j.drawn? ≠ some screen) : j.Spent screen := by
  induction j with
  | nil => cases last
  | cons e j ih =>
    cases e with
    | opened selection airtime t =>
      obtain rfl : selection.screen = screen := Option.some.inj last
      exact (spent_of_not_clearsFor law.2 h other).cons rfl
    | drawn f => exact absurd (law.1.1.symm.trans last) other
    | _ => exact (ih law.2 last h other).cons rfl

end Journal

namespace Scheduler

variable {γ σ : Type} {s s' : Scheduler γ σ}

def Remembered (s : Scheduler γ σ) : Prop :=
  ∀ screen, s.journal.clearsFor screen = (s.redraw || s.lastShown ≠ some screen)

structure Cleared (s : Scheduler γ σ) : Prop where
  remembered : s.Remembered
  law : s.journal.Always Event.Clears

def Pending : Stage → Journal → Prop
  | .showing p first, j => j.opened? = some p.screen ∧ (first && p.forceClear) = j.clearDue
  | .drawn p _ _, j => j.opened? = some p.screen ∧ j.clearDue = false
  | _, _ => True

lemma cleared_setup (u : Setup γ σ) : u.scheduler.Cleared :=
  ⟨fun _ => rfl, trivial⟩

lemma openShowing_clears (w : World σ) (selection : Selection) (s : Scheduler γ σ) :
    let j := (s.openShowing w selection).2.journal
    (∀ screen, j.clearsFor screen = decide (selection.screen ≠ screen)) ∧
      j.clearDue = s.journal.clearsFor selection.screen ∧ j.opened? = some selection.screen := by
  obtain ⟨restarts, ns, ns', outside, counters, lastDynamic, hopen, hr⟩ :=
    openShowing_eq w selection s
  have restarted : ∀ e ∈ restarts, ∃ provider t, e = .cycleRestarted provider t :=
    fun e he => ⟨_, _, hr e he⟩
  have noted (screen : Screen) :
      ((s.note ns).note ns').journal.clearsFor screen = s.journal.clearsFor screen := by
    have hnotes : ∀ ns : List Notice, ∀ e ∈ (ns.map Event.notice).reverse, .noted ∈ e.leftBy := by
      simp [Event.leftBy]
    exact (Journal.clearsFor_append (by decide) (hnotes ns')).trans
      (Journal.clearsFor_append (by decide) (hnotes ns))
  rw [hopen]
  dsimp only
  have skip (j : Journal) := Journal.restarts_append (j := j) restarted
  exact ⟨(skip _).1, (skip _).2.1.trans (noted selection.screen), (skip _).2.2⟩

variable [HealthGate γ] {w : World σ} {kind : MoveKind} {kinds : List MoveKind}

lemma Move.remembered (h : Move w kind s s') (hs : s.Remembered) : s'.Remembered := by
  intro screen
  by_cases hk : kind ∈ redrawKinds
  · cases h with
    | left s ended n =>
      obtain ⟨ns, rotation, hleave⟩ := leaveSession_marks s ended n
      rw [hleave]
      rfl
    | rotated s =>
      rw [advanceRotation]
      dsimp only
      split
      · exact hs screen
      · rfl
    | opened s selection =>
      rw [(openShowing_clears w selection s).1 screen]
      obtain ⟨restarts, ns, ns', outside, counters, lastDynamic, hopen, -⟩ :=
        openShowing_eq w selection s
      simp [hopen]
    | _ => simp [redrawKinds] at hk
  · obtain ⟨new, hj, hnew⟩ := h.entries
    have hkind : kind ≠ .opened := by
      rintro rfl
      simp [redrawKinds] at hk
    rw [hj, Journal.clearsFor_append hk fun e he => (hnew e he).1, h.kept.redraw hk,
      h.kept.lastShown (by simpa using hkind)]
    exact hs screen

lemma Moves.cleared (h : Moves w kinds s s') (hs : s.Cleared) (hk : .drew ∉ kinds) :
    s'.Cleared := by
  refine h.keep (fun kind hm a b move ha => ⟨move.remembered ha.remembered, ?_⟩) hs
  obtain ⟨new, hj, hnew⟩ := move.entries
  rw [hj]
  exact ha.law.append fun e he =>
    Event.clears_of_leftBy (fun hd => hk (hd ▸ hm)) (hnew e he).1

def cueKinds : List MoveKind :=
  [.opened, .drew]

lemma Moves.clearDue (h : Moves w kinds s s')
    (hk : ∀ kind ∈ kinds, kind ∉ cueKinds) :
    s'.journal.clearDue = s.journal.clearDue ∧ s'.journal.opened? = s.journal.opened? := by
  refine h.preserve (R := fun a b : Scheduler γ σ => b.journal.clearDue = a.journal.clearDue ∧
      b.journal.opened? = a.journal.opened?) (fun _ => ⟨rfl, rfl⟩)
    (fun _ _ _ hab hbc => ⟨hbc.1.trans hab.1, hbc.2.trans hab.2⟩) ?_
  intro kind hm a b move
  obtain ⟨new, hj, hnew⟩ := move.entries
  rw [hj]
  exact Journal.clearDue_append (by simpa [cueKinds] using hk kind hm) fun e he => (hnew e he).1

lemma Step.cleared {a b : Stage × Scheduler γ σ} (h : Step w a b) (he : EntitledAt a.1 a.2)
    (hs : a.2.Cleared) (hp : Pending a.1 a.2.journal) : b.2.Cleared ∧ Pending b.1 b.2.journal := by
  by_cases hd : b.1.isDrawn
  · cases h with
    | drew s p first _ _ stay =>
      have watched := preemptionPending_moves w s p
      obtain ⟨due, last⟩ := watched.clearDue (by decide)
      have cleared := watched.cleared hs (by decide)
      have opened := last.trans hp.1
      exact ⟨⟨cleared.remembered, ⟨opened, hp.2.trans due.symm⟩, cleared.law⟩, opened, rfl⟩
    | _ => cases hd
  · have undrawn := h.undrawn (by simpa using hd) he
    refine ⟨undrawn.cleared hs (by decide), ?_⟩
    cases h with
    | opened s selection =>
      obtain ⟨-, due, last⟩ := openShowing_clears w selection s
      exact ⟨last, (hs.remembered selection.screen).symm.trans due.symm⟩
    | rested s p first =>
      have judged := (judged_moves w p first s).clearDue (by decide)
      have rested :=
        (rest_moves w ((s.acknowledge p first).judge w p).2 p).clearDue (by decide)
      exact ⟨(rested.2.trans judged.2).trans hp.1, ((rested.1.trans judged.1).trans hp.2).symm⟩
    | drew => exact absurd rfl hd
    | _ => trivial

lemma perform_cleared (w : World σ) (op : Operation σ) (hs : s.Cleared) :
    (s.perform w op).Cleared := by
  cases op with
  | tick =>
    exact ((tick_steps w s).invariant_of_entitled
      (fun stage s' => s'.Cleared ∧ Pending stage s'.journal)
      (fun _ _ step he h => step.cleared he h.1 h.2) trivial ⟨hs, trivial⟩).1
  | poll => exact (pollOnDemand_moves w s).cleared hs (by decide)
  | expire => exact (checkExpiration_moves w s).cleared hs (by decide)
  | advance =>
    have moves : Moves w [.rotated] s s.advanceRotation := .single (.rotated s)
    exact moves.cleared hs (by decide)
  | meanwhile span outside deadline =>
    have moves : Moves w [.elapsed] s _ := .single (.elapsed s span outside deadline)
    exact moves.cleared hs (by decide)

/-- A frame that does not clear the display comes right after another one of its screen, unless a
showing of the screen used up the clear without a frame. -/
theorem unforced_frame_over_other_iff (u : Setup γ σ) (w : World σ) (ops : List (Operation σ))
    (later before : Journal) (f : Frame)
    (h : (u.scheduler.performAll w ops).journal = later ++ .drawn f :: before)
    (unforced : f.forceClear = false) :
    before.drawn? ≠ some f.screen ↔ before.Spent f.screen := by
  have cleared : (u.scheduler.performAll w ops).Cleared :=
    performAll_keeps (fun op _ _ hs => perform_cleared w op hs) (cleared_setup u)
  have law := cleared.law
  rw [h] at law
  have frame : before.opened? = some f.screen ∧ f.forceClear = before.clearDue := law.of_split
  refine ⟨fun other => ?_, Journal.Spent.drawn?_ne⟩
  exact Journal.spent_of_not_clearDue law.of_append.2 frame.1 (frame.2.symm.trans unforced) other

def earlySession : Script :=
  { polls := [[], [], [], [.startMode "1" "scores_live"]] }

theorem early_session_spends_clear :
    ∃ (later before : Journal) (f : Frame),
      (earlySession.play [.tick, .tick, .tick]).journal = later ++ .drawn f :: before ∧
      f.forceClear = false ∧ before.Spent f.screen := by
  let j := (earlySession.play [.tick, .tick, .tick]).journal
  obtain ⟨f, drawn, unforced, other⟩ : ∃ f ∈ j.at? 3 Event.frame?,
      f.forceClear = false ∧ Journal.drawn? (j.drop 4) ≠ some f.screen := by
    decide +kernel
  have split := Journal.split_at_frame drawn
  have spent := (unforced_frame_over_other_iff earlySession.setup Script.world
    [.tick, .tick, .tick] _ _ f split unforced).mp other
  exact ⟨_, _, f, split, unforced, spent⟩

theorem unforced_frame_over_other :
    ∃ (later before : Journal) (f : Frame),
      (earlySession.play [.tick, .tick, .tick]).journal = later ++ .drawn f :: before ∧
      f.forceClear = false ∧ f.screen = ⟨"scores_live", "scores"⟩ ∧
      before.drawn? = some ⟨"scores_recent", "scores"⟩ := by
  let j := (earlySession.play [.tick, .tick, .tick]).journal
  obtain ⟨f, drawn, unforced, screen, other⟩ : ∃ f ∈ j.at? 3 Event.frame?,
      f.forceClear = false ∧ f.screen = ⟨"scores_live", "scores"⟩ ∧
      Journal.drawn? (j.drop 4) = some ⟨"scores_recent", "scores"⟩ := by
    decide +kernel
  exact ⟨_, _, f, Journal.split_at_frame drawn, unforced, screen, other⟩

end Scheduler

end Marquee
