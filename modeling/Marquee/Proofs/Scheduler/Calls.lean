import Marquee.Proofs.Scheduler.Kept
import Marquee.Proofs.Scheduler.Operation

/-! The journal tells which calls the world gets: to draw, to start a cycle anew, to do background work. -/

namespace Marquee

inductive WorldCall
  | draw (screen : Screen) (time : Instant)
  | restart (provider : ProviderId)
  | work (time : Instant)
  deriving DecidableEq

def WorldCall.screen? : WorldCall → Option Screen
  | .draw screen _ => some screen
  | _ => none

def Event.call? (c : Catalog) : Event → Option WorldCall
  | .drawn f => if c.hasProvider f.screen.provider then some (.draw f.screen f.time) else none
  | .cycleRestarted provider _ => some (.restart provider)
  | .maintained time => some (.work time)
  | _ => none

def Journal.calls (c : Catalog) (j : Journal) : List WorldCall :=
  j.filterMap (Event.call? c)

/-- The world keeps a list of what it has to tell of the calls it gets, the latest first. -/
structure World.Records {σ κ : Type} (w : World σ) (tell : WorldCall → Option κ) (told : σ → List κ) : Prop where
  draw : ∀ o t screen forceClear,
    told (w.draw o t screen forceClear).world = (tell (.draw screen t)).toList ++ told o
  restart : ∀ o provider, told (w.restartCycle o provider) = (tell (.restart provider)).toList ++ told o
  work : ∀ work, w.maintenance = some work → ∀ o t, told (work o t).2 = (tell (.work t)).toList ++ told o
  arrivals : ∀ o t, told (w.arrivals o t).2 = told o

namespace Scheduler

variable {γ σ κ : Type} {s s' s'' : Scheduler γ σ}

lemma openShowing_cycle (w : World σ) (selection : Selection) (s : Scheduler γ σ) :
    let airtime := (s.airtimeFor w selection.screen).value
    let anew := s.restartsCycle selection.screen airtime.dynamic
    let opened := (s.openShowing w selection).2
    (∃ ns ns' : List Notice, opened.journal =
      (if anew then [.cycleRestarted selection.screen.provider s.clock] else []) ++
        .opened selection airtime s.clock :: ((s.note ns).note ns').journal) ∧
    opened.outside = (if anew then w.restartCycle s.outside selection.screen.provider else s.outside) ∧
    opened.lastDynamic = if airtime.dynamic then some selection.screen else none := by
  obtain ⟨ns, ns', _, made⟩ := openShowing_made w selection s
  exact ⟨⟨ns, ns', congrArg journal made⟩, congrArg outside made, congrArg lastDynamic made⟩

variable {tell : WorldCall → Option κ} {told : σ → List κ}

structure CallsTold (tell : WorldCall → Option κ) (told : σ → List κ) (s s' : Scheduler γ σ) : Prop where
  catalog : s'.catalog = s.catalog
  made : ∃ new, s'.journal.calls s.catalog = new ++ s.journal.calls s.catalog ∧
    told s'.outside = new.filterMap tell ++ told s.outside

namespace CallsTold

lemma refl (s : Scheduler γ σ) : CallsTold tell told s s :=
  ⟨rfl, [], rfl, rfl⟩

lemma trans (h : CallsTold tell told s s') (h' : CallsTold tell told s' s'') : CallsTold tell told s s'' := by
  obtain ⟨new, journal, world⟩ := h.made
  obtain ⟨new', journal', world'⟩ := h'.made
  rw [h.catalog] at journal'
  exact ⟨h'.catalog.trans h.catalog, new' ++ new, by rw [journal', journal, List.append_assoc],
    by rw [world', world, List.filterMap_append, List.append_assoc]⟩

lemma told_eq (h : CallsTold tell told s s') {new : Journal} (written : s'.journal = new ++ s.journal) :
    told s'.outside = (new.calls s.catalog).filterMap tell ++ told s.outside := by
  obtain ⟨made, journal, world⟩ := h.made
  rw [written, Journal.calls, List.filterMap_append] at journal
  rw [world, ← List.append_cancel_right journal, Journal.calls]

lemma of_entries (new : Journal) (catalog : s'.catalog = s.catalog) (journal : s'.journal = new ++ s.journal)
    (world : told s'.outside = (new.calls s.catalog).filterMap tell ++ told s.outside) :
    CallsTold tell told s s' :=
  ⟨catalog, new.calls s.catalog, journal ▸ List.filterMap_append, world⟩

lemma of_entry (e : Event) (call : WorldCall) (told_as : e.call? s.catalog = some call)
    (catalog : s'.catalog = s.catalog) (journal : s'.journal = e :: s.journal)
    (world : told s'.outside = (tell call).toList ++ told s.outside) : CallsTold tell told s s' := by
  refine .of_entries [e] catalog journal (world.trans ?_)
  cases h : tell call <;> simp [Journal.calls, told_as, h]

end CallsTold

variable {w : World σ}

lemma draw_callsTold (records : w.Records tell told) (p : Showing) (forceClear : Bool) (s : Scheduler γ σ) :
    CallsTold tell told s (s.draw w p forceClear).2 := by
  cases registered : s.catalog.hasProvider p.screen.provider with
  | true =>
    refine .of_entry _ (.draw p.screen s.clock) ?_ rfl rfl ?_
    · exact if_pos registered
    · simpa [draw, log, registered] using records.draw s.outside s.clock p.screen forceClear
  | false =>
    refine .of_entries [_] rfl rfl ?_
    simp [draw, log, Journal.calls, Event.call?, registered]

lemma maintain_callsTold (records : w.Records tell told) (s : Scheduler γ σ) :
    CallsTold tell told s (s.maintain w) := by
  rw [maintain]
  split
  · exact .refl s
  · next work hwork => exact .of_entry _ _ rfl rfl rfl (records.work work hwork s.outside s.clock)

variable [HealthGate γ] {p : Showing} {first : Bool} {answer : Option Ending} {drawing : Drawing}

lemma Move.callsTold_of_notMem {kind : MoveKind} (h : Move w kind s s') (hk : kind ∉ outsideKinds) :
    CallsTold tell told s s' := by
  obtain ⟨new, journal, left⟩ := h.entries
  have none : new.calls s.catalog = [] := by
    refine List.filterMap_eq_nil_iff.mpr fun e he => ?_
    have kind_mem := (left e he).1
    cases e with
    | drawn | cycleRestarted | maintained =>
      rw [List.mem_singleton.mp kind_mem] at hk
      exact absurd (by decide) hk
    | _ => rfl
  exact .of_entries new h.kept.catalog journal (by rw [none, h.kept.outside hk, List.filterMap_nil, List.nil_append])

lemma openShowing_callsTold (records : w.Records tell told) (selection : Selection) (s : Scheduler γ σ) :
    CallsTold tell told s (s.openShowing w selection).2 := by
  obtain ⟨⟨ns, ns', journal⟩, world, -⟩ := openShowing_cycle w selection s
  have noted (t : Scheduler γ σ) (ns : List Notice) : CallsTold tell told t (t.note ns) :=
    Move.callsTold_of_notMem (.noted (w := w) t ns) (by decide)
  let written := ((s.note ns).note ns').log (.opened selection (s.airtimeFor w selection.screen).value s.clock)
  have opened : CallsTold tell told s written :=
    ((noted s ns).trans (noted _ ns')).trans (.of_entries [_] rfl rfl rfl)
  have catalog := (Move.opened (w := w) s selection).kept.catalog
  refine opened.trans ?_
  cases anew : s.restartsCycle selection.screen (s.airtimeFor w selection.screen).value.dynamic with
  | true =>
    rw [anew] at journal world
    refine .of_entry _ _ rfl catalog journal ?_
    rw [world]
    exact records.restart s.outside selection.screen.provider
  | false =>
    rw [anew] at journal world
    exact .of_entries [] catalog journal (congrArg told world)

lemma Move.callsTold {kind : MoveKind} (records : w.Records tell told) (h : Move w kind s s')
    (hk : kind ≠ .elapsed) : CallsTold tell told s s' := by
  by_cases inside : kind ∉ outsideKinds
  · exact h.callsTold_of_notMem inside
  · cases h with
    | received => exact .of_entries [] rfl rfl (records.arrivals s.outside s.clock)
    | opened _ selection => exact openShowing_callsTold records selection s
    | drew _ p forceClear => exact draw_callsTold records p forceClear s
    | maintained => exact maintain_callsTold records s
    | elapsed => exact absurd rfl hk
    | _ => exact absurd (by decide) inside

lemma Moves.callsTold {kinds : List MoveKind} (records : w.Records tell told) (h : Moves w kinds s s')
    (hk : .elapsed ∉ kinds) : CallsTold tell told s s' :=
  h.preserve CallsTold.refl (fun _ _ _ => CallsTold.trans)
    fun _ mem _ _ move => move.callsTold records (ne_of_mem_of_not_mem mem hk)

theorem perform_callsTold (records : w.Records tell told) (s : Scheduler γ σ) {op : Operation σ}
    (own : ∀ span outside deadline, op ≠ .meanwhile span outside deadline) :
    CallsTold tell told s (s.perform w op) := by
  cases op with
  | tick => exact (tick_moves w s).callsTold records (by decide)
  | poll => exact (pollOnDemand_moves w s).callsTold records (by decide)
  | expire => exact (checkExpiration_moves w s).callsTold records (by decide)
  | advance => exact Move.callsTold records (.rotated (w := w) s) (by decide)
  | meanwhile span outside deadline => exact absurd rfl (own span outside deadline)

lemma Followed.callsTold (records : w.Records tell told) (h : Followed w p first s drawing answer s') :
    CallsTold tell told s s' := by
  have judged := (judged_moves w p first s).callsTold records (by decide)
  cases h with
  | failed | empty => exact .refl s
  | judged => exact judged
  | rested => exact (judged.trans (maintain_callsTold records _)).trans (.of_entries [_] rfl rfl rfl)

lemma Rounded.callsTold (records : w.Records tell told) (h : Rounded w p first s answer s') :
    CallsTold tell told s s' := by
  have checked := (preemptionPending_moves w s p).callsTold records (by decide)
  cases h with
  | interrupted | timeUp => exact .refl s
  | preempted => exact checked
  | drew _ _ _ _ _ followed =>
    exact (checked.trans (draw_callsTold records p _ _)).trans (followed.callsTold records)

lemma rounds_callsTold (records : w.Records tell told) (p : Showing) (n : Nat) (first : Bool)
    (s : Scheduler γ σ) : CallsTold tell told s (rounds w p n first s).2 := by
  induction n generalizing first s with
  | zero => exact .refl s
  | succ n ih =>
    have rounded := (round_rounded w s p first).callsTold records
    rw [rounds]
    cases (s.round w p first).1 with
    | some ending => exact rounded
    | none => exact rounded.trans (ih false _)

theorem present_callsTold (records : w.Records tell told) (selection : Selection) (s : Scheduler γ σ) :
    CallsTold tell told s (s.present w selection).2 := by
  rw [present]
  split
  · exact ((openShowing_callsTold records selection s).trans (rounds_callsTold records _ _ _ _)).trans
      (.of_entries [_] rfl rfl rfl)
  · exact .refl s

end Scheduler

end Marquee
