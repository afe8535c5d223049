import Marquee.Proofs.Scheduler.Calls

/-! When the cycle of dynamic content starts anew: at the opening of each dynamic showing, unless the showing
before it was dynamic and of the same screen. -/

namespace Marquee

namespace Event

def isRestart : Event → Bool
  | .cycleRestarted _ _ => true
  | _ => false

def restarted? : Event → Option ProviderId
  | .cycleRestarted provider _ => some provider
  | _ => none

def isOpened : Event → Bool
  | .opened _ _ _ => true
  | _ => false

end Event

/-- A showing in the journal: how it was opened, and what was written down from then until the next one was,
the latest first. -/
structure Airing where
  selection : Selection
  airtime : Airtime
  time : Instant
  entries : Journal

namespace Airing

def screen (a : Airing) : Screen :=
  a.selection.screen

def cycle? (a : Airing) : Option Screen :=
  if a.airtime.dynamic then some a.screen else none

def StartsCycle (a : Airing) (previous : Option Airing) : Prop :=
  a.airtime.dynamic ∧ ¬ ∃ b, previous = some b ∧ b.airtime.dynamic ∧ b.screen = a.screen

/-- A cycle was restarted in the showing exactly if it starts one: that of its provider, and directly after
the opening, so once and before the first frame. -/
structure Restarts (a : Airing) (previous : Option Airing) : Prop where
  restarts_iff : (∃ e ∈ a.entries, e.isRestart) ↔ a.StartsCycle previous
  at_opening : ∀ later e earlier, a.entries = later ++ e :: earlier → e.isRestart →
    e = .cycleRestarted a.screen.provider a.time ∧ earlier = []

lemma startsCycle_iff (a : Airing) (previous : Option Airing) :
    a.StartsCycle previous ↔ a.airtime.dynamic ∧ previous.bind cycle? ≠ some a.screen := by
  cases previous <;> simp [StartsCycle, cycle?]

def add (new : Journal) (a : Airing) : Airing :=
  { a with entries := new ++ a.entries }

lemma Restarts.add {a : Airing} {previous : Option Airing} (h : a.Restarts previous) {new : Journal}
    (quiet : ∀ e ∈ new, e.isRestart = false) : (a.add new).Restarts previous := by
  constructor
  · refine Iff.trans ⟨?_, ?_⟩ h.restarts_iff
    · rintro ⟨e, he, restart⟩
      rcases List.mem_append.mp he with he | he
      · simp [quiet e he] at restart
      · exact ⟨e, he, restart⟩
    · rintro ⟨e, he, restart⟩
      exact ⟨e, List.mem_append_right new he, restart⟩
  · intro later e earlier split restart
    rcases List.append_eq_append_iff.mp split with ⟨mid, -, entries⟩ | ⟨mid, hnew, hmid⟩
    · exact h.at_opening mid e earlier entries restart
    · cases mid with
      | nil => exact h.at_opening [] e earlier hmid.symm restart
      | cons first mid =>
        obtain ⟨rfl, -⟩ := List.cons.inj hmid
        simp [quiet e (by simp [hnew])] at restart

lemma restarts_opened (a : Airing) (previous : Option Airing)
    (anew : a.StartsCycle previous → a.entries = [.cycleRestarted a.screen.provider a.time])
    (on : ¬ a.StartsCycle previous → a.entries = []) : a.Restarts previous := by
  by_cases starts : a.StartsCycle previous
  · have entries := anew starts
    refine ⟨iff_of_true ⟨_, entries ▸ List.mem_singleton_self _, rfl⟩ starts, ?_⟩
    intro later e earlier split _
    rw [entries] at split
    cases later with
    | nil =>
      obtain ⟨rfl, rfl⟩ := List.cons.inj split
      exact ⟨rfl, rfl⟩
    | cons => simp at split
  · have entries := on starts
    exact ⟨iff_of_false (by simp [entries]) starts, fun later e earlier split => by simp [entries] at split⟩

end Airing

namespace Journal

def airings : Journal → List Airing
  | [] => []
  | .opened selection airtime t :: j => ⟨selection, airtime, t, []⟩ :: airings j
  | e :: j => (airings j).modifyHead (Airing.add [e])

def restarted (j : Journal) : List ProviderId :=
  j.filterMap Event.restarted?

variable {new j : Journal}

lemma airings_append (quiet : ∀ e ∈ new, e.isOpened = false) (j : Journal) :
    airings (new ++ j) = (airings j).modifyHead (Airing.add new) := by
  induction new with
  | nil => exact congrFun List.modifyHead_id.symm (airings j)
  | cons e new ih =>
    have rest := ih fun e he => quiet e (List.mem_cons_of_mem _ he)
    have first := quiet e List.mem_cons_self
    have added : airings (e :: (new ++ j)) = (airings (new ++ j)).modifyHead (Airing.add [e]) := by
      cases e <;> first | rfl | cases first
    rw [List.cons_append, added, rest, List.modifyHead_modifyHead]
    rfl

lemma restarted_eq_nil (quiet : ∀ e ∈ new, e.isRestart = false) : restarted new = [] := by
  refine List.filterMap_eq_nil_iff.mpr fun e he => ?_
  have none := quiet e he
  cases e <;> first | rfl | cases none

lemma restarted_append (new j : Journal) : restarted (new ++ j) = new.restarted ++ j.restarted :=
  List.filterMap_append

structure Cyclic (j : Journal) : Prop where
  law : ∀ a earlier, a :: earlier <:+ j.airings → a.Restarts earlier.head?
  whole : j.restarted = j.airings.flatMap fun a => a.entries.restarted

lemma cyclic_nil : Cyclic [] :=
  ⟨fun _ _ h => absurd (List.suffix_nil.mp h) (List.cons_ne_nil _ _), rfl⟩

lemma Cyclic.append (h : j.Cyclic) (unopened : ∀ e ∈ new, e.isOpened = false)
    (quiet : ∀ e ∈ new, e.isRestart = false) : Cyclic (new ++ j) := by
  have same (a : Airing) : (a.add new).entries.restarted = a.entries.restarted := by
    rw [Airing.add, restarted_append, restarted_eq_nil quiet, List.nil_append]
  constructor
  · -- Only the last showing gets the new entries, and they are no restarts.
    rw [airings_append unopened]
    intro a earlier suffix
    cases hj : j.airings with
    | nil =>
      rw [hj] at suffix
      cases List.suffix_nil.mp suffix
    | cons last before =>
      rw [hj] at suffix
      rcases List.suffix_cons_iff.mp suffix with whole | older
      · obtain ⟨rfl, rfl⟩ := List.cons.inj whole
        exact (h.law last earlier (hj ▸ List.suffix_refl _)).add quiet
      · exact h.law a earlier (hj ▸ older.trans (List.suffix_cons _ _))
  · rw [restarted_append, restarted_eq_nil quiet, airings_append unopened, List.nil_append, h.whole]
    cases j.airings with
    | nil => rfl
    | cons last before =>
      rw [List.modifyHead_cons, List.flatMap_cons, List.flatMap_cons, same]

lemma airings_opened (a : Airing) (unopened : ∀ e ∈ a.entries, e.isOpened = false) :
    airings (a.entries ++ .opened a.selection a.airtime a.time :: j) = a :: j.airings := by
  rw [airings_append unopened]
  exact congrArg (· :: _) (congrArg (Airing.mk _ _ _) (List.append_nil _))

lemma Cyclic.opened (h : j.Cyclic) (a : Airing) (opening : a.Restarts j.airings.head?)
    (unopened : ∀ e ∈ a.entries, e.isOpened = false) :
    Cyclic (a.entries ++ .opened a.selection a.airtime a.time :: j) := by
  constructor
  · rw [airings_opened a unopened]
    intro b earlier suffix
    rcases List.suffix_cons_iff.mp suffix with whole | older
    · obtain ⟨rfl, rfl⟩ := List.cons.inj whole
      exact opening
    · exact h.law b earlier older
  · rw [airings_opened a unopened, List.flatMap_cons, ← h.whole, restarted_append]
    rfl

end Journal

namespace Scheduler

variable {γ σ : Type} {s s' : Scheduler γ σ}

structure Cycling (s : Scheduler γ σ) : Prop where
  known : s.lastDynamic = s.journal.airings.head?.bind Airing.cycle?
  cyclic : s.journal.Cyclic

lemma cycling_setup (u : Setup γ σ) : u.scheduler.Cycling :=
  ⟨rfl, Journal.cyclic_nil⟩

lemma quiet_notices (ns : List Notice) :
    ∀ e ∈ (ns.map Event.notice).reverse, e.isOpened = false ∧ e.isRestart = false := by
  simp [Event.isOpened, Event.isRestart]

lemma Cycling.append {new : Journal} (h : s.Cycling) (quiet : ∀ e ∈ new, e.isOpened = false ∧ e.isRestart = false)
    (journal : s'.journal = new ++ s.journal) (lastDynamic : s'.lastDynamic = s.lastDynamic) :
    s'.Cycling := by
  have unopened : ∀ e ∈ new, e.isOpened = false := fun e he => (quiet e he).1
  constructor
  · rw [lastDynamic, h.known, journal, Journal.airings_append unopened]
    cases s.journal.airings <;> rfl
  · rw [journal]
    exact h.cyclic.append unopened fun e he => (quiet e he).2

lemma Cycling.note (h : s.Cycling) (ns : List Notice) : (s.note ns).Cycling :=
  h.append (quiet_notices ns) rfl rfl

lemma Cycling.opened (h : s.Cycling) (a : Airing)
    (entries : a.entries =
      if s.restartsCycle a.screen a.airtime.dynamic then [.cycleRestarted a.screen.provider a.time] else [])
    (journal : s'.journal = a.entries ++ .opened a.selection a.airtime a.time :: s.journal)
    (lastDynamic : s'.lastDynamic = a.cycle?) : s'.Cycling := by
  have starts : a.StartsCycle s.journal.airings.head? ↔ s.restartsCycle a.screen a.airtime.dynamic := by
    rw [Airing.startsCycle_iff, ← h.known]
    simp [restartsCycle]
  have opening : a.Restarts s.journal.airings.head? :=
    Airing.restarts_opened a _ (fun anew => entries.trans (if_pos (starts.mp anew)))
      fun on => entries.trans (if_neg (mt starts.mpr on))
  have unopened : ∀ e ∈ a.entries, e.isOpened = false := by
    rw [entries]
    split <;> simp [Event.isOpened]
  constructor
  · rw [lastDynamic, journal, Journal.airings_opened a unopened]
    rfl
  · exact journal ▸ h.cyclic.opened a opening unopened

lemma Cycling.openShowing (h : s.Cycling) (w : World σ) (selection : Selection) :
    (s.openShowing w selection).2.Cycling := by
  obtain ⟨⟨ns, ns', journal⟩, -, lastDynamic⟩ := openShowing_cycle w selection s
  exact ((h.note ns).note ns').opened ⟨selection, _, s.clock, _⟩ rfl journal lastDynamic

variable [HealthGate γ] {w : World σ}

lemma Move.cycling {kind : MoveKind} (h : Move w kind s s') (hs : s.Cycling) : s'.Cycling := by
  by_cases opens : kind = .opened
  · subst opens
    cases h with
    | opened _ selection => exact hs.openShowing w selection
  · obtain ⟨new, journal, left⟩ := h.entries
    refine hs.append (fun e he => ?_) journal (h.kept.lastDynamic (by simpa using opens))
    have kind_mem := (left e he).1
    cases e <;> first | exact ⟨rfl, rfl⟩ | exact absurd (List.mem_singleton.mp kind_mem) opens

/-- A cycle starts anew with each dynamic showing that does not follow one of the same screen: once, before
the first frame, and in no other showing. The journal tells the calls of each operation in their order. -/
theorem cycle_starts_anew_with_new_content (u : Setup γ σ) (w : World σ) (ops : List (Operation σ)) :
    let s := u.scheduler.performAll w ops
    (∀ a earlier, a :: earlier <:+ s.journal.airings → a.Restarts earlier.head?) ∧
    s.journal.restarted = s.journal.airings.flatMap (fun a => a.entries.restarted) ∧
    ∀ {κ : Type} (tell : WorldCall → Option κ) (told : σ → List κ), w.Records tell told →
      ∀ op : Operation σ, (∀ span outside deadline, op ≠ .meanwhile span outside deadline) →
      ∃ new, (s.perform w op).journal.calls u.catalog = new ++ s.journal.calls u.catalog ∧
        told (s.perform w op).outside = new.filterMap tell ++ told s.outside := by
  intro s
  have cycling : s.Cycling :=
    performAll_of_moves (fun _ _ _ move => move.cycling) (cycling_setup u) ops
  have catalog : s.catalog = u.catalog :=
    performAll_of_moves (P := fun s => s.catalog = u.catalog)
      (fun _ _ _ move hs => move.kept.catalog.trans hs) rfl ops
  refine ⟨cycling.cyclic.law, cycling.cyclic.whole, fun tell told records op own => ?_⟩
  exact catalog ▸ (perform_callsTold records s own).made

structure Newsroom where
  polls : List (List Request)
  made : List WorldCall := []

def newsWorld : World Newsroom where
  answers _ _ provider := { capabilities := { dynamicDuration := provider = "news" } }
  draw room time screen _ := ⟨.ok true, 0, { room with made := .draw screen time :: room.made }⟩
  restartCycle room provider := { room with made := .restart provider :: room.made }
  maintenance := none
  arrivals room _ := (room.polls.headD [], { room with polls := room.polls.tail })
  stopRequested _ _ := false
  patience := 0

lemma newsWorld_records : newsWorld.Records some Newsroom.made where
  draw _ _ _ _ := rfl
  restart _ _ := rfl
  work _ h := nomatch h
  arrivals _ _ := rfl

def newsroom : Setup AlwaysHealthy Newsroom where
  catalog := ((Catalog.register {} "news" ["ticker"]).value.1.register "clock" ["time"]).value.1
  settings := { defaultDuration := 1, normalInterval := 1, gracePeriod := 0 }
  gate _ := .mk
  outside := { polls := [[], [], [], [.startMode "1" "ticker"], [], [.stop "2"]] }

theorem ticker_starts_anew_after_clock :
    let s := newsroom.scheduler.performAll newsWorld (List.replicate 3 .tick)
    let s' := s.perform newsWorld .tick
    (s'.journal.airings.map fun a => (a.selection, a.entries.restarted)) =
      [(⟨⟨"ticker", "news"⟩, .rotation 0⟩, ["news"]), (⟨⟨"time", "clock"⟩, .rotation 1⟩, []),
        (⟨⟨"ticker", "news"⟩, .onDemand⟩, []), (⟨⟨"ticker", "news"⟩, .rotation 0⟩, ["news"])] ∧
    s'.journal.restarted = ["news", "news"] ∧
    s'.outside.made = s'.journal.calls newsroom.catalog := by
  intro s s'
  have airings : (s'.journal.airings.map fun a => (a.selection, a.entries.restarted)) =
      [(⟨⟨"ticker", "news"⟩, .rotation 0⟩, ["news"]), (⟨⟨"time", "clock"⟩, .rotation 1⟩, []),
        (⟨⟨"ticker", "news"⟩, .onDemand⟩, []), (⟨⟨"ticker", "news"⟩, .rotation 0⟩, ["news"])] := by
    decide +kernel
  have before : s.outside.made = s.journal.calls newsroom.catalog := by decide +kernel
  have law := cycle_starts_anew_with_new_content newsroom newsWorld (List.replicate 3 .tick)
  have law' := cycle_starts_anew_with_new_content newsroom newsWorld (List.replicate 4 .tick)
  rw [show newsroom.scheduler.performAll newsWorld (List.replicate 3 .tick) = s from rfl] at law
  rw [show newsroom.scheduler.performAll newsWorld (List.replicate 4 .tick) = s' from rfl] at law'
  clear_value s
  obtain ⟨-, -, made⟩ := law
  obtain ⟨-, whole, -⟩ := law'
  obtain ⟨new, told, asked⟩ := made some Newsroom.made newsWorld_records .tick fun _ _ _ => nofun
  refine ⟨airings, ?_, by rw [asked, List.filterMap_some, before, told]⟩
  have restarted := congrArg (List.flatMap Prod.snd) airings
  rw [List.flatMap_map] at restarted
  exact whole.trans restarted

end Scheduler

end Marquee
