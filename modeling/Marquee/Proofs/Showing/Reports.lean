import Marquee.Proofs.Breaker
import Marquee.Proofs.Rotation.Lapses
import Marquee.Proofs.Scheduler.Calls
import Marquee.Proofs.Scheduler.Listing
import Marquee.Proofs.Session.Ending

/-! The health gate hears of each showing once: that it has begun well, if so, and then how it failed, if it
did. Of anything else it hears nothing. -/

namespace Marquee

def Drawing.error? : Drawing → Option ProviderError
  | failed error => some error
  | _ => none

/-- What the gate has to be told of a frame. Only the first one counts as a success. -/
def Drawing.dues (d : Drawing) (first : Bool) : List (Option ProviderError) :=
  match d with
  | failed error => [some error]
  | _ => if first then [none] else []

def Frame.dues (frames : List Frame) : List (Option ProviderError) :=
  match frames with
  | [] => []
  | first :: _ =>
    let failure := frames.findSome? fun f => f.drawing.error?
    (if first.drawing.error?.isNone then [none] else []) ++ failure.toList.map some

def Ending.dues : Ending → List (Option ProviderError)
  | failed error => [some error]
  | noContent => [none]
  | completed | cycleComplete | preempted | interrupted | stalled => []

def Frame.Sound (frames : List Frame) : Prop :=
  ∀ f ∈ frames, f.drawing.error? = none

lemma Drawing.error?_of_holds {d : Drawing} {first : Bool} (h : d.Holds first) : d.error? = none := by
  rcases h with rfl | ⟨rfl, -⟩ <;> rfl

lemma Drawing.dues_of_holds {d : Drawing} {first : Bool} (h : d.Holds first) :
    d.dues first = if first then [none] else [] := by
  rcases h with rfl | ⟨rfl, rfl⟩ <;> rfl

lemma Frame.dues_concat {frames : List Frame} (sound : Sound frames) (f : Frame) :
    dues (frames ++ [f]) = dues frames ++ f.drawing.dues frames.isEmpty := by
  have none_before : frames.findSome? (fun f => f.drawing.error?) = none :=
    List.findSome?_eq_none_iff.mpr sound
  cases frames with
  | nil => cases h : f.drawing <;> simp [dues, Drawing.dues, Drawing.error?, h]
  | cons first later =>
    have began := sound first List.mem_cons_self
    rw [List.cons_append, dues, dues, ← List.cons_append, List.findSome?_append, none_before]
    cases h : f.drawing <;> simp [Drawing.dues, Drawing.error?, h]

namespace Event

def report? : Event → Option HealthReport
  | succeeded provider time => some { provider, time }
  | failed provider error time => some { provider, error := some error, time }
  | _ => none

def selection? : Event → Option Selection
  | opened selection _ _ => some selection
  | _ => none

def isTold : Event → Bool
  | opened _ _ _ | drawn _ | succeeded _ _ | failed _ _ _ => true
  | _ => false

lemma not_isTold {e : Event} {kind : MoveKind} (h : kind ∈ e.leftBy)
    (hk : kind ∉ [.opened, .drew, .succeeded, .failed]) : e.isTold = false := by
  cases e with
  | opened | drawn | succeeded | failed =>
    rw [List.mem_singleton.mp h] at hk
    exact absurd (by decide) hk
  | _ => rfl

end Event

/-- The showings that were opened, their frames and what the gate was told, each in order. -/
structure Tale where
  openings : List Selection := []
  frames : List Frame := []
  reports : List HealthReport := []

namespace Tale

def append (t t' : Tale) : Tale where
  openings := t.openings ++ t'.openings
  frames := t.frames ++ t'.frames
  reports := t.reports ++ t'.reports

structure Owes (selection : Selection) (dues : List (Option ProviderError)) (t : Tale) : Prop where
  openings : t.openings = [selection]
  frames : ∀ f ∈ t.frames, f.selection = selection
  provider : ∀ r ∈ t.reports, r.provider = selection.screen.provider
  reports : t.reports.map HealthReport.error ++ dues = Frame.dues t.frames

variable {selection : Selection} {dues : List (Option ProviderError)} {t : Tale}

@[simp] lemma append_empty (t : Tale) : t.append {} = t := by
  simp [append]

@[simp] lemma empty_append (t : Tale) : append {} t = t := by
  simp [append]

lemma owes_opening (selection : Selection) : Owes selection [] { openings := [selection] } :=
  ⟨rfl, by simp, by simp, rfl⟩

lemma Owes.pay {reports : List HealthReport} {rest : List (Option ProviderError)}
    (h : t.Owes selection (reports.map HealthReport.error ++ rest))
    (provider : ∀ r ∈ reports, r.provider = selection.screen.provider) :
    (t.append { reports }).Owes selection rest where
  openings := by simpa [append] using h.openings
  frames := by simpa [append] using h.frames
  provider r hr := (List.mem_append.mp hr).elim (h.provider r) (provider r)
  reports := by simpa [append] using h.reports

lemma Owes.draw (h : t.Owes selection []) (sound : Frame.Sound t.frames) {f : Frame}
    (own : f.selection = selection) :
    (t.append { frames := [f] }).Owes selection (f.drawing.dues t.frames.isEmpty) where
  openings := by simpa [append] using h.openings
  frames g hg := (List.mem_append.mp hg).elim (h.frames g) fun last => List.mem_singleton.mp last ▸ own
  provider := by simpa [append] using h.provider
  reports := by
    have settled := h.reports
    rw [List.append_nil] at settled
    simp [append, Frame.dues_concat sound, settled]

end Tale

namespace Journal

variable {new j : Journal}

def reports (j : Journal) : List HealthReport :=
  j.reverse.filterMap Event.report?

def openings (j : Journal) : List Selection :=
  j.reverse.filterMap Event.selection?

def tale (j : Journal) : Tale where
  openings := j.openings
  frames := j.frames
  reports := j.reports

lemma tale_append (new j : Journal) : (new ++ j).tale = j.tale.append new.tale := by
  simp [tale, Tale.append, openings, frames, reports]

lemma tale_eq_empty (h : ∀ e ∈ new, e.isTold = false) : new.tale = {} := by
  induction new with
  | nil => rfl
  | cons e new ih =>
    have rest := ih fun e he => h e (List.mem_cons_of_mem _ he)
    have first := h e List.mem_cons_self
    rw [← List.singleton_append, tale_append, rest]
    cases e <;> first | rfl | cases first

/-- Either no showing was opened, and then none was drawn for and the gate was told nothing, or one was and
the gate was told of it once: by a success if its first frame did not fail, and then by its failure. -/
def ToldInFull (j : Journal) : Prop :=
  match j.openings with
  | [] => j.frames = [] ∧ j.reports = []
  | [selection] => (∀ f ∈ j.frames, f.selection = selection) ∧
      (∀ r ∈ j.reports, r.provider = selection.screen.provider) ∧
      j.reports.map HealthReport.error = Frame.dues j.frames
  | _ => False

lemma toldInFull_of_empty (h : j.tale = {}) : j.ToldInFull := by
  have openings : j.openings = [] := congrArg Tale.openings h
  rw [ToldInFull, openings]
  exact ⟨congrArg Tale.frames h, congrArg Tale.reports h⟩

lemma toldInFull_of_owes {selection : Selection} (h : j.tale.Owes selection []) : j.ToldInFull := by
  have openings : j.openings = [selection] := h.openings
  rw [ToldInFull, openings]
  exact ⟨h.frames, h.provider, (List.append_nil _).symm.trans h.reports⟩

end Journal

def Stage.Told : Stage → Tale → Prop
  | .start, t | .chosen _, t => t = {}
  | .showing p first, t => t.Owes p.selection [] ∧ Frame.Sound t.frames ∧ t.frames.isEmpty = first
  | .drawn p first drawing, t => t.Owes p.selection (drawing.dues first) ∧ t.frames.isEmpty = false ∧
      (drawing.error? = none → Frame.Sound t.frames)
  | .over selection ending, t => t.Owes selection ending.dues
  | .done _, t => t = {} ∨ ∃ selection, t.Owes selection []

namespace Scheduler

variable {γ σ : Type} [HealthGate γ] {w : World σ} {s s' s'' : Scheduler γ σ} {t t' : Tale}
  {kind : MoveKind} {kinds : List MoveKind} {a b : Stage × Scheduler γ σ}

structure Tells (t : Tale) (s s' : Scheduler γ σ) : Prop where
  journal : ∃ new, s'.journal = new ++ s.journal ∧ new.tale = t
  gate : s'.gate = t.reports.foldl HealthGate.hear s.gate

lemma Tells.refl (s : Scheduler γ σ) : Tells {} s s :=
  ⟨⟨[], rfl, rfl⟩, rfl⟩

lemma Tells.trans (h : Tells t s s') (h' : Tells t' s' s'') : Tells (t.append t') s s'' := by
  obtain ⟨new, hj, rfl⟩ := h.journal
  obtain ⟨new', hj', rfl⟩ := h'.journal
  refine ⟨⟨new' ++ new, by rw [hj', hj, List.append_assoc], Journal.tale_append new' new⟩, ?_⟩
  rw [h'.gate, h.gate, Tale.append, List.foldl_append]

lemma Tells.quiet (h : Tells t s s') (h' : Tells {} s' s'') : Tells t s s'' :=
  t.append_empty ▸ h.trans h'

lemma Move.tells (h : Move w kind s s') (hk : kind ∉ [.opened, .drew, .succeeded, .failed]) :
    Tells {} s s' := by
  obtain ⟨new, hj, left⟩ := h.entries
  exact ⟨⟨new, hj, Journal.tale_eq_empty fun e he => Event.not_isTold (left e he).1 hk⟩,
    h.kept.gate (by simp_all [gateKinds])⟩

lemma Moves.tells (h : Moves w kinds s s')
    (hk : ∀ kind ∈ kinds, kind ∉ [.opened, .drew, .succeeded, .failed]) : Tells {} s s' :=
  h.preserve .refl (fun _ _ _ => .quiet) fun kind hm _ _ move => move.tells (hk kind hm)

lemma tale_notices (ns : List Notice) : Journal.tale (ns.map Event.notice).reverse = {} :=
  Journal.tale_eq_empty fun e he => by
    obtain ⟨n, -, rfl⟩ := List.mem_map.mp (List.mem_reverse.mp he)
    rfl

lemma reportSuccess_tells (s : Scheduler γ σ) (provider : ProviderId) :
    Tells { reports := [⟨provider, none, s.clock⟩] } s (s.reportSuccess provider) := by
  refine ⟨⟨.succeeded provider s.clock ::
    ((HealthGate.succeeded s.gate s.clock provider).notices.map Event.notice).reverse, rfl, ?_⟩, rfl⟩
  rw [← List.singleton_append, Journal.tale_append, tale_notices]
  rfl

lemma reportFailure_tells (s : Scheduler γ σ) (provider : ProviderId) (error : ProviderError) :
    Tells { reports := [⟨provider, some error, s.clock⟩] } s (s.reportFailure provider error) := by
  refine ⟨⟨.failed provider error s.clock ::
    ((HealthGate.failed s.gate s.clock provider error).notices.map Event.notice).reverse, rfl, ?_⟩, rfl⟩
  rw [← List.singleton_append, Journal.tale_append, tale_notices]
  rfl

lemma openShowing_tells (w : World σ) (selection : Selection) (s : Scheduler γ σ) :
    Tells { openings := [selection] } s (s.openShowing w selection).2 := by
  obtain ⟨restarts, ns, ns', outside, counters, lastDynamic, hopen, hr⟩ := openShowing_eq w selection s
  let opened : Event := .opened selection (s.airtimeFor w selection.screen).value s.clock
  have restarted : Journal.tale restarts = {} :=
    Journal.tale_eq_empty fun e he => (hr e he).symm ▸ rfl
  rw [hopen]
  refine ⟨⟨restarts ++ ([opened] ++ ((ns'.map Event.notice).reverse ++ (ns.map Event.notice).reverse)),
    by simp [note, opened], ?_⟩, rfl⟩
  rw [Journal.tale_append, restarted, Journal.tale_append, Journal.tale_append, tale_notices, tale_notices]
  rfl

lemma draw_tells (w : World σ) (p : Showing) (forceClear : Bool) (s : Scheduler γ σ) :
    ∃ f : Frame, f.selection = p.selection ∧ f.drawing = (s.draw w p forceClear).1 ∧
      Tells { frames := [f] } s (s.draw w p forceClear).2 :=
  ⟨_, rfl, rfl, ⟨[_], rfl, rfl⟩, rfl⟩

lemma acknowledge_tells (w : World σ) (p : Showing) (first : Bool) (s : Scheduler γ σ) :
    ∃ reports : List HealthReport, (∀ r ∈ reports, r.provider = p.screen.provider) ∧
      reports.map HealthReport.error = (if first then [none] else []) ∧
      Tells { reports } s ((s.acknowledge p first).judge w p).2 := by
  have judged : Tells {} (s.acknowledge p first) ((s.acknowledge p first).judge w p).2 :=
    (judge_moves w _ p).tells (by decide)
  cases first with
  | false => exact ⟨[], by simp, rfl, judged⟩
  | true =>
    have praised := reportSuccess_tells s p.screen.provider
    have noticed : Tells {} (s.reportSuccess p.screen.provider) (s.acknowledge p true) :=
      (Move.acknowledged (w := w) _).tells (by decide)
    exact ⟨_, by simp, rfl, (praised.quiet noticed).quiet judged⟩

lemma afterFailure_tells (w : World σ) {selection : Selection} (error : ProviderError)
    (h : s.Entitled selection) :
    Tells { reports := [⟨selection.screen.provider, some error, s.clock⟩] } s
      (s.afterFailure selection error) := by
  let counters := { s.counters with displayFailures := s.counters.displayFailures + 1 }
  have booked : Tells {} s ({ s with counters }.note [.screenFailed selection.screen error]) :=
    ((Moves.single (.counted (w := w) s counters)).andThen (.single (.noted _ _))).tells (by decide)
  have blamed := booked.trans (reportFailure_tells _ selection.screen.provider error)
  have entitled := h.calm ((blamed_moves w selection error s).calm (by decide))
  refine blamed.quiet ?_
  rw [afterFailure_eq]
  cases hsource : selection.source with
  | onDemand => exact (breakOff_moves w error entitled hsource).tells (by decide)
  | live => exact (Move.setAside (w := w) _ _).tells (by decide)
  | rotation index =>
    have passed : Moves w _ (s.blamed selection error) _ :=
      (Moves.single (.setAside _ selection.screen.provider)).andThen (.single (.rotated _))
    exact passed.tells (by decide)

lemma conclude_tells {selection : Selection} {ending : Ending}
    (h : ending ≠ .preempted → s.Entitled selection) :
    ∃ reports : List HealthReport, (∀ r ∈ reports, r.provider = selection.screen.provider) ∧
      reports.map HealthReport.error = ending.dues ∧
      Tells { reports } s (s.conclude w selection ending).2 := by
  cases ending with
  | completed | cycleComplete =>
    exact ⟨[], by simp, rfl, (finishShowing_moves w s selection).tells (by decide)⟩
  | preempted => exact ⟨[], by simp, rfl, (Move.counted (w := w) s _).tells (by decide)⟩
  | interrupted | stalled => exact ⟨[], by simp, rfl, .refl s⟩
  | noContent =>
    have praised := reportSuccess_tells s selection.screen.provider
    refine ⟨_, by simp, rfl, praised.quiet ?_⟩
    rw [conclude_noContent]
    split
    · exact (Move.rotated (w := w) _).tells (by decide)
    · exact (idleSleep_moves w _).tells (by decide)
  | failed error => exact ⟨_, by simp, rfl, afterFailure_tells w error (h (by simp))⟩

lemma Step.tells (h : Step w a b) (he : EntitledAt a.1 a.2)
    (known : ∀ screen, a.1.screen? = some screen → a.2.catalog.hasProvider screen.provider)
    (ht : a.1.Told t) : ∃ t', Tells t' a.2 b.2 ∧ b.1.Told (t.append t') := by
  have silent (told : Tells {} a.2 b.2) (hb : b.1.Told t) :
      ∃ t', Tells t' a.2 b.2 ∧ b.1.Told (t.append t') :=
    ⟨{}, told, t.append_empty.symm ▸ hb⟩
  cases h with
  | halted s => exact silent ((Move.counted (w := w) s _).tells (by decide)) (Or.inl ht)
  | idled s =>
    have idled := (chosen_moves w s).andThen (idle_moves w _)
    exact silent (idled.tells (by decide)) (Or.inl ht)
  | chose s selection =>
    have chosen := (chosen_moves w s).andThen (.single (.turned _ (Phase.ofSource selection.source)))
    exact silent (chosen.tells (by decide)) ht
  | passedOver s selection =>
    have passed := (Moves.single (.setAside (w := w) s selection.screen.provider)).andThen
      ((Moves.single (.rotated _)).andThen (paceAfterPass_moves w _))
    exact silent (passed.tells (by decide)) (Or.inl ht)
  | unregistered s selection _ unknown =>
    -- This failure would be reported without a frame, but only registered screens come up.
    have registered := known selection.screen rfl
    rw [unknown] at registered
    cases registered
  | opened s selection =>
    obtain rfl : t = {} := ht
    refine ⟨_, openShowing_tells w selection s, ?_⟩
    rw [Tale.empty_append]
    exact ⟨Tale.owes_opening selection, by simp [Frame.Sound], rfl⟩
  | interrupted s | timeUp s | gaveUp s | failed s | empty s =>
    exact silent ((Move.closed (w := w) s _).tells (by decide)) ht.1
  | preempted s p =>
    have preempted := (preemptionPending_moves w s p).andThen (.single (.closed _ .preempted))
    exact silent (preempted.tells (by decide)) ht.1
  | drew s p first =>
    obtain ⟨owes, sound, isFirst⟩ := ht
    have watched : Tells {} s (s.preemptionPending w p).2 :=
      (preemptionPending_moves w s p).tells (by decide)
    obtain ⟨f, own, drawing, told⟩ := draw_tells w p (first && p.forceClear) (s.preemptionPending w p).2
    refine ⟨_, watched.trans told, ?_⟩
    rw [← drawing, ← isFirst]
    refine ⟨owes.draw sound own, by simp [Tale.append], fun fine g hg => ?_⟩
    rcases List.mem_append.mp hg with earlier | last
    · exact sound g earlier
    · obtain rfl : g = f := List.mem_singleton.mp last
      exact fine
  | judged s p first drawing ending holds judged =>
    obtain ⟨reports, provider, due, told⟩ := acknowledge_tells w p first s
    have paid : (t.append { reports }).Owes p.selection [] := by
      refine .pay ?_ provider
      rw [List.append_nil, due, ← Drawing.dues_of_holds holds]
      exact ht.1
    refine ⟨_, told.quiet ((Move.closed (w := w) _ ending).tells (by decide)), ?_⟩
    rcases judge_ending judged with rfl | rfl <;> exact paid
  | rested s p first drawing holds =>
    obtain ⟨owes, drew, sound⟩ := ht
    obtain ⟨reports, provider, due, told⟩ := acknowledge_tells w p first s
    refine ⟨_, told.quiet ((rest_moves w _ p).tells (by decide)), .pay ?_ provider, ?_⟩
    · rw [List.append_nil, due, ← Drawing.dues_of_holds holds]
      exact owes
    · have frames : (t.append { reports }).frames = t.frames := List.append_nil _
      rw [frames]
      exact ⟨sound (Drawing.error?_of_holds holds), drew⟩
  | concluded s selection ending =>
    obtain ⟨reports, provider, due, told⟩ := conclude_tells (w := w) he
    refine ⟨_, told.quiet ((paceAfterPass_moves w _).tells (by decide)), Or.inr ⟨selection, .pay ?_ provider⟩⟩
    rw [List.append_nil, due]
    exact ht

lemma Tells.toldInFull {j : Journal} (h : Tells t s s') (hj : s'.journal = j ++ s.journal)
    (ht : t = {} ∨ ∃ selection, t.Owes selection []) : j.ToldInFull := by
  obtain ⟨new, hnew, rfl⟩ := h.journal
  obtain rfl := List.append_cancel_right (hnew.symm.trans hj)
  rcases ht with empty | ⟨selection, owes⟩
  exacts [Journal.toldInFull_of_empty empty, Journal.toldInFull_of_owes owes]

variable {c : Catalog}

lemma tick_tells (registered : c.Registered) (w : World σ) (hs : s.Listed ∧ s.Answered c) :
    ∃ t : Tale, Tells t s (s.tick w).2 ∧ (t = {} ∨ ∃ selection, t.Owes selection []) := by
  refine tick_invariant_of_known registered hs (fun stage s' => ∃ t, Tells t s s' ∧ stage.Told t) ?_
    ⟨{}, .refl s, rfl⟩
  rintro a b step he known ⟨t, told, ht⟩
  obtain ⟨t', further, ht'⟩ := step.tells he known ht
  exact ⟨t.append t', told.trans further, ht'⟩

lemma perform_tells (registered : c.Registered) (w : World σ) (hs : s.Listed ∧ s.Answered c)
    (op : Operation σ) :
    ∃ t : Tale, Tells t s (s.perform w op) ∧ (t = {} ∨ ∃ selection, t.Owes selection []) := by
  cases op with
  | tick => exact tick_tells registered w hs
  | poll => exact ⟨{}, (pollOnDemand_moves w s).tells (by decide), .inl rfl⟩
  | expire => exact ⟨{}, (checkExpiration_moves w s).tells (by decide), .inl rfl⟩
  | advance => exact ⟨{}, (Move.rotated (w := w) s).tells (by decide), .inl rfl⟩
  | meanwhile span outside deadline =>
    exact ⟨{}, (Move.elapsed (w := w) s span outside deadline).tells (by decide), .inl rfl⟩

lemma performAll_gate (registered : c.Registered) (w : World σ) (ops : List (Operation σ))
    (hs : s.Listed ∧ s.Answered c) : ∃ t, Tells t s (s.performAll w ops) := by
  induction ops generalizing s with
  | nil => exact ⟨{}, .refl s⟩
  | cons op ops ih =>
    obtain ⟨t, told, -⟩ := perform_tells registered w hs op
    obtain ⟨t', later⟩ := ih (perform_listed registered op hs)
    exact ⟨t.append t', told.trans later⟩

/-- The gate has heard what the journal says and nothing else. Each operation tells it of at most one showing,
once that it has begun well, if so, and once how it failed, if it did; the calls it makes are those written
down. -/
theorem gate_hears_of_each_showing_once (u : Setup γ σ) (registered : u.catalog.Registered) (w : World σ)
    (ops : List (Operation σ)) (op : Operation σ) :
    let s := u.scheduler.performAll w ops
    s.gate = s.journal.reports.foldl HealthGate.hear u.scheduler.gate ∧
    ∃ during : Journal, (s.perform w op).journal = during ++ s.journal ∧ during.ToldInFull ∧
      ∀ {κ : Type} (tell : WorldCall → Option κ) (told : σ → List κ), w.Records tell told →
        (∀ span outside deadline, op ≠ .meanwhile span outside deadline) →
        told (s.perform w op).outside = (during.calls s.catalog).filterMap tell ++ told s.outside := by
  intro s
  have listed := performAll_listed u registered w ops
  have start := performAll_listed u registered w []
  obtain ⟨t, heard⟩ := performAll_gate registered w ops start
  obtain ⟨t', told, whole⟩ := perform_tells registered w listed op
  refine ⟨?_, ?_⟩
  · obtain ⟨new, hj, tale⟩ := heard.journal
    have journal : s.journal = new := hj.trans (List.append_nil new)
    have reports : s.journal.reports = t.reports := by
      rw [journal]
      exact congrArg Tale.reports tale
    rw [reports]
    exact heard.gate
  · obtain ⟨during, hj, -⟩ := told.journal
    exact ⟨during, hj, told.toldInFull hj whole,
      fun tell told records own => (perform_callsTold records s own).told_eq hj⟩

def fadingWorld : World (List Screen) where
  answers _ _ _ := {}
  draw drawn _ screen _ :=
    { reply := if screen ∈ drawn then .error (.display "gone") else .ok true
      cost := 0
      world := screen :: drawn }
  restartCycle drawn _ := drawn
  maintenance := none
  arrivals drawn _ := ([], drawn)
  stopRequested _ _ := false
  patience := 0

lemma fadingWorld_records : fadingWorld.Records WorldCall.screen? id where
  draw _ _ _ _ := rfl
  restart _ _ := rfl
  work _ h := nomatch h
  arrivals _ _ := rfl

def fading : Setup Breaker (List Screen) where
  catalog := (Catalog.register {} "clock" ["time"]).value.1
  settings := { defaultDuration := 2 }
  gate settings := Breaker.new settings.health
  outside := []

theorem fading_clock_is_reported_twice :
    fading.catalog.Registered ∧
    let s := fading.scheduler.performAll fadingWorld [.tick]
    s.journal.frames.map Frame.drawing = [.shown, .failed (.display "gone")] ∧
    s.journal.reports.map HealthReport.error = [none, some (.display "gone")] ∧
    s.gate.failures "clock" = 1 ∧ s.outside = [⟨"time", "clock"⟩, ⟨"time", "clock"⟩] := by
  have registered : fading.catalog.Registered := .register "clock" ["time"] .empty
  refine ⟨registered, ?_⟩
  intro s
  have openings : s.journal.openings = [⟨⟨"time", "clock"⟩, .rotation 0⟩] := by decide +kernel
  have drawings : s.journal.frames.map Frame.drawing = [.shown, .failed (.display "gone")] := by
    decide +kernel
  have dues : Frame.dues s.journal.frames = [none, some (.display "gone")] := by decide +kernel
  obtain ⟨-, during, hj, told, made⟩ :=
    gate_hears_of_each_showing_once fading registered fadingWorld [] .tick
  obtain ⟨heard, -⟩ := gate_hears_of_each_showing_once fading registered fadingWorld [.tick] .tick
  obtain rfl : s.journal = during := hj.trans (List.append_nil during)
  rw [Journal.ToldInFull, openings] at told
  obtain ⟨-, -, reports⟩ := told
  have failures : (s.journal.reports.foldl HealthGate.hear fading.scheduler.gate).failures "clock" = 1 := by
    decide +kernel
  have screens : (s.journal.calls fading.scheduler.catalog).filterMap WorldCall.screen? =
      [⟨"time", "clock"⟩, ⟨"time", "clock"⟩] := by
    decide +kernel
  have drawn := made WorldCall.screen? id fadingWorld_records nofun
  rw [performAll_nil, screens, ← performAll_singleton] at drawn
  exact ⟨drawings, reports.trans dues, heard ▸ failures, drawn⟩

end Scheduler

end Marquee
