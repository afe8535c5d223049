import Marquee.Proofs.Live
import Marquee.Proofs.OnDemand.Resolution
import Marquee.Proofs.Scheduler.Robust
import Marquee.Proofs.Session.Resume

/-! Whatever is chosen, shown or kept for a session is a screen of the catalog. Requests get the screen
that they mean, and are turned down if there is none. -/

namespace Marquee

def Event.screen? : Event → Option Screen
  | .opened selection _ _ => some selection.screen
  | .drawn f => some f.screen
  | .sessionBegun session _ _ => session.screen?
  | _ => none

def Stage.screen? : Stage → Option Screen
  | .chosen selection | .over selection _ => some selection.screen
  | .showing p _ | .drawn p _ _ => some p.screen
  | .start | .done _ => none

lemma Event.screen?_eq_none {e : Event} {kind : MoveKind} (h : kind ∈ e.leftBy)
    (hk : kind ∉ [.opened, .drew, .started]) : e.screen? = none := by
  cases e with
  | opened | drawn | sessionBegun =>
    rw [List.mem_singleton.mp h] at hk
    exact absurd (by decide) hk
  | _ => rfl

namespace Journal

def answersWith : Option Session → Journal → List (Request × Option Session)
  | _, [] => []
  | _, .sessionBegun session _ _ :: j => answersWith (some session) j
  | begun, .taken r _ :: j => (r, begun) :: answersWith none j
  | begun, _ :: j => answersWith begun j

def answers (j : Journal) : List (Request × Option Session) :=
  j.answersWith none

lemma answersWith_append {begun : Option Session} {new j : Journal} {kind : MoveKind}
    (hnew : ∀ e ∈ new, kind ∈ e.leftBy) (hk : kind ∉ [.took, .started]) :
    answersWith begun (new ++ j) = answersWith begun j := by
  induction new with
  | nil => rfl
  | cons e new ih =>
    have rest := ih fun e he => hnew e (List.mem_cons_of_mem _ he)
    have left := hnew e List.mem_cons_self
    cases e with
    | taken | sessionBegun =>
      rw [List.mem_singleton.mp left] at hk
      exact absurd (by decide) hk
    | _ => exact rest

lemma answersWith_notices {begun : Option Session} {new j : Journal}
    (hnew : ∀ e ∈ new, ∃ n, e = .notice n) : answersWith begun (new ++ j) = answersWith begun j := by
  have left : ∀ e ∈ new, MoveKind.noted ∈ e.leftBy := by
    intro e he
    obtain ⟨n, rfl⟩ := hnew e he
    exact List.mem_cons_self
  exact answersWith_append left (by decide)

end Journal

namespace Scheduler

variable {γ σ : Type} {s s' : Scheduler γ σ}

structure Listed (s : Scheduler γ σ) : Prop where
  resumable : s.Resumable
  session : ∀ screen, s.session.screen? = some screen → screen ∈ s.catalog.screens
  onDisplay : ∀ screen, s.rotation.onDisplay = some screen → screen ∈ s.catalog.screens
  journal : ∀ e ∈ s.journal, ∀ screen, e.screen? = some screen → screen ∈ s.catalog.screens

lemma listed_setup (u : Setup γ σ) : u.scheduler.Listed := by
  refine ⟨resumable_setup u, ?_, ?_, ?_⟩
  · simp [Session.screen?]
  · simp
  · simp

lemma startSession_catalog (s : Scheduler γ σ) (screen : Screen) (r : Request) :
    (s.startSession screen r).catalog = s.catalog :=
  rfl

lemma startSession_entries (s : Scheduler γ σ) (screen : Screen) (r : Request) :
    ∃ (session : Session) (noted : Journal),
      (s.startSession screen r).journal = .sessionBegun session s.rotation s.clock :: (noted ++ s.journal) ∧
      (∀ e ∈ noted, ∃ n, e = .notice n) ∧ (s.startSession screen r).session = session ∧
      session.screen? = some screen := by
  obtain ⟨ns, ns', session, running, start, hrunning, rfl, -⟩ := startSession_eq s screen r
  refine ⟨session, (ns'.map Event.notice).reverse ++ (ns.map Event.notice).reverse, ?_, ?_, ?_, ?_⟩
  · rw [start]
    simp [log, note]
  · simp only [List.mem_append, List.mem_reverse, List.mem_map]
    rintro e (⟨n, -, rfl⟩ | ⟨n, -, rfl⟩) <;> exact ⟨n, rfl⟩
  · rw [start]
    rfl
  · rw [Session.screen?, hrunning]
    rfl

/-- A request is answered by a session exactly if it is to be, and by a session for the screen it means. -/
def Answers (c : Catalog) (r : Request) (begun : Option Session) : Prop :=
  (begun.isSome ↔ r.action = .start ∧ c.Accepts r) ∧
    ∀ session, begun = some session → ∀ screen, session.screen? = some screen ↔ c.Means r screen

structure Answered (c : Catalog) (s : Scheduler γ σ) : Prop where
  catalog : s.catalog = c
  answers : ∀ answer ∈ s.journal.answers, Answers c answer.1 answer.2
  begun : ∀ session rotation t, .sessionBegun session rotation t ∈ s.journal →
    ∃ r, (r, some session) ∈ s.journal.answers

variable {w : World σ} {c : Catalog}

lemma Answered.heard_none {r : Request} (hs : s.Answered c) (h : Answers c r none) :
    (s.heard w r).Answered c := by
  have answers : (s.heard w r).journal.answers = (r, none) :: s.journal.answers := by
    rw [heard_journal]
    rfl
  refine ⟨(heard_catalog w s r).trans hs.catalog, ?_, ?_⟩
  · rw [answers, List.forall_mem_cons]
    exact ⟨h, hs.answers⟩
  · rw [answers, heard_journal]
    intro session rotation t he
    rcases List.mem_cons.mp he with fresh | old
    · cases fresh
    · obtain ⟨r', mem⟩ := hs.begun session rotation t old
      exact ⟨r', List.mem_cons_of_mem _ mem⟩

lemma Answered.heard_some {r : Request} {screen : Screen} (hs : s.Answered c)
    (h : ∀ session, session.screen? = some screen → Answers c r (some session)) :
    ((s.heard w r).startSession screen r).Answered c := by
  obtain ⟨session, noted, journal, notices, -, held⟩ := startSession_entries (s.heard w r) screen r
  rw [heard_journal] at journal
  have answers : ((s.heard w r).startSession screen r).journal.answers =
      (r, some session) :: s.journal.answers := by
    rw [journal, Journal.answers, Journal.answersWith, Journal.answersWith_notices notices,
      Journal.answersWith]
    rfl
  refine ⟨(startSession_catalog _ screen r).trans ((heard_catalog w s r).trans hs.catalog), ?_, ?_⟩
  · rw [answers, List.forall_mem_cons]
    exact ⟨h session held, hs.answers⟩
  · rw [answers, journal]
    intro other rotation t he
    rcases List.mem_cons.mp he with fresh | he
    · obtain rfl : other = session := (Event.sessionBegun.inj fresh).1
      exact ⟨r, List.mem_cons_self⟩
    rcases List.mem_append.mp he with noted | he
    · obtain ⟨n, hn⟩ := notices _ noted
      cases hn
    rcases List.mem_cons.mp he with taken | old
    · cases taken
    · obtain ⟨r', mem⟩ := hs.begun other rotation t old
      exact ⟨r', List.mem_cons_of_mem _ mem⟩

variable [HealthGate γ] {kind : MoveKind} {kinds : List MoveKind}
  {a b : Stage × Scheduler γ σ}

lemma Move.onDisplay (h : Move w kind s s') (hk : kind ≠ .opened) (hs : s.Resumable) :
    s'.rotation.onDisplay = none ∨ s'.rotation.onDisplay = s.rotation.onDisplay := by
  by_cases hr : kind ∈ rotationKinds
  · cases h with
    | left s ended n =>
      rw [leaveSession_eq s ended n fun _ => hs.index_lt]
      exact .inr rfl
    | rotated s => exact .inr (Rotation.onDisplay_advance s.rotation)
    | setAside s provider => exact .inr (Rotation.onDisplay_skip s.rotation provider)
    | blanked => exact .inl rfl
    | opened => exact absurd rfl hk
    | _ => simp [rotationKinds] at hr
  · exact .inr (congrArg Rotation.onDisplay (h.kept.rotation hr))

lemma Move.session_screen (h : Move w kind s s') {screen : Screen}
    (hs : s'.session.screen? = some screen) :
    s.session.screen? = some screen ∨ screen ∈ s.catalog.screens := by
  by_cases hk : kind ∈ sessionKinds
  · cases h with
    | started s target r ok =>
      obtain ⟨session, noted, -, -, rfl, held⟩ := startSession_entries s target r
      obtain rfl := Option.some.inj (held.symm.trans hs)
      exact .inr (resolveRequest_mem ok)
    | left s ended n leaves =>
      obtain ⟨ns, rotation, left⟩ := leaveSession_marks s ended n
      rw [left] at hs
      have gone : ended.screen? = some screen := hs
      rw [Session.screen?, leaves.running_eq_none] at gone
      cases gone
    | refused => exact .inl hs
    | _ => simp [sessionKinds] at hk
  · exact .inl (h.kept.session hk ▸ hs)

lemma Move.new_screens (h : Move w kind s s') (hk : kind ∉ [.opened, .drew]) :
    ∀ e ∈ s'.journal, ∀ screen, e.screen? = some screen →
      e ∈ s.journal ∨ screen ∈ s.catalog.screens := by
  by_cases started : kind = .started
  · cases h with
    | started s target r ok =>
      obtain ⟨session, noted, journal, notices, -, held⟩ := startSession_entries s target r
      rw [journal]
      intro e he screen put
      rcases List.mem_cons.mp he with rfl | he
      · obtain rfl := Option.some.inj (held.symm.trans put)
        exact .inr (resolveRequest_mem ok)
      rcases List.mem_append.mp he with fresh | old
      · obtain ⟨n, rfl⟩ := notices e fresh
        cases put
      · exact .inl old
    | _ => cases started
  · obtain ⟨new, hj, left⟩ := h.entries
    intro e he screen hscreen
    rw [hj] at he
    rcases List.mem_append.mp he with fresh | old
    · rw [Event.screen?_eq_none (left e fresh).1 (by simp_all)] at hscreen
      cases hscreen
    · exact .inl old

lemma Move.listed (h : Move w kind s s') (hk : kind ∉ [.opened, .drew]) (hs : s.Listed) : s'.Listed := by
  have catalog := h.kept.catalog
  refine ⟨h.resumable hs.resumable, fun screen held => ?_, fun screen shown => ?_, fun e he screen put => ?_⟩
  · rw [catalog]
    rcases h.session_screen held with old | new
    exacts [hs.session screen old, new]
  · rw [catalog]
    rcases h.onDisplay (by rintro rfl; exact hk (by decide)) hs.resumable with blank | same
    · rw [blank] at shown
      cases shown
    · exact hs.onDisplay screen (same ▸ shown)
  · rw [catalog]
    rcases h.new_screens hk e he screen put with old | new
    exacts [hs.journal e old screen put, new]

lemma Moves.listed (h : Moves w kinds s s') (hk : ∀ kind ∈ kinds, kind ∉ [.opened, .drew])
    (hs : s.Listed) : s'.Listed :=
  h.keep (fun kind hm _ _ move => move.listed (hk kind hm)) hs

lemma Moves.catalog_eq (h : Moves w kinds s s') : s'.catalog = s.catalog :=
  h.preserve (R := fun a b => b.catalog = a.catalog) (fun _ => rfl)
    (fun _ _ _ hab hbc => hbc.trans hab) fun _ _ _ _ move => move.kept.catalog

lemma seekLive_mem {screen : Screen} (h : (s.seekLive w).1 = some screen) :
    screen ∈ s.catalog.screens :=
  Live.search_mem h

lemma Listed.select_mem {selection : Selection} (hs : s.Listed) (h : (s.select w).1 = some selection) :
    selection.screen ∈ s.catalog.screens := by
  cases select_selected w s h with
  | onDemand screen held => exact hs.session screen held
  | live screen _ found => exact seekLive_mem found
  | rotation screen _ current =>
    rw [← hs.resumable.screens]
    exact List.mem_of_getElem? current

lemma Listed.openShowing {selection : Selection} (hs : s.Listed)
    (mem : selection.screen ∈ s.catalog.screens) : (s.openShowing w selection).2.Listed := by
  have move : Move w .opened s (s.openShowing w selection).2 := .opened s selection
  obtain ⟨restarts, ns, ns', outside, counters, lastDynamic, hopen, hr⟩ := openShowing_eq w selection s
  have resumable := move.resumable hs.resumable
  rw [hopen] at resumable ⊢
  refine ⟨resumable, hs.session, fun screen shown => ?_, fun e he screen put => ?_⟩
  · obtain rfl := Option.some.inj shown
    exact mem
  · rcases List.mem_append.mp he with restart | he
    · rw [hr e restart] at put
      cases put
    rcases List.mem_cons.mp he with rfl | he
    · obtain rfl := Option.some.inj put
      exact mem
    · have noted : ((s.note ns).note ns').Listed :=
        ((Moves.single (.noted (w := w) s ns)).andThen (.single (.noted _ ns'))).listed (by decide) hs
      exact noted.journal e he screen put

lemma Listed.draw {p : Showing} (hs : s.Listed) (mem : p.screen ∈ s.catalog.screens)
    (entitled : s.Entitled p.selection) (unexpired : s.session.isExpired s.clock = false)
    (forceClear : Bool) : (s.draw w p forceClear).2.Listed := by
  have move : Move w .drew s (s.draw w p forceClear).2 := .drew s p forceClear entitled unexpired
  refine ⟨move.resumable hs.resumable, hs.session, hs.onDisplay, fun e he screen put => ?_⟩
  rcases List.mem_cons.mp he with rfl | he
  · obtain rfl := Option.some.inj put
    exact mem
  · exact hs.journal e he screen put

structure ListedAt (stage : Stage) (s : Scheduler γ σ) : Prop extends Listed s where
  underway : ∀ screen, stage.screen? = some screen → screen ∈ s.catalog.screens

lemma Step.screen? (h : Step w a b) (hs : a.2.Listed) {screen : Screen} (hb : b.1.screen? = some screen) :
    a.1.screen? = some screen ∨ screen ∈ a.2.catalog.screens := by
  cases h with
  | chose s selection _ chosen =>
    obtain rfl := Option.some.inj hb
    have prepared : Moves w choosingKinds s (s.counted.prepare w) :=
      ((Moves.single (.counted s _)).andThen (prepare_moves w _)).mono (by decide)
    have mem := (prepared.listed (by decide) hs).select_mem chosen
    rw [prepared.catalog_eq] at mem
    exact .inr mem
  | halted | idled | passedOver | concluded => cases hb
  | _ => exact .inl hb

lemma Step.listedAt (h : Step w a b) (he : EntitledAt a.1 a.2) (hs : ListedAt a.1 a.2) :
    ListedAt b.1 b.2 := by
  have listed : b.2.Listed := by
    by_cases ho : opens a.1 b.1
    · cases h with
      | opened s selection => exact hs.toListed.openShowing (hs.underway _ rfl)
      | _ => cases ho
    by_cases hd : b.1.isDrawn
    · cases h with
      | drew s p first _ _ stay =>
        have hp := preemptionPending_of_false w s stay
        have entitled : s.Entitled p.selection := he
        have watched := preemptionPending_moves w s p
        refine (watched.listed (by decide) hs.toListed).draw ?_ (entitled.calm hp.1) hp.2 _
        rw [watched.catalog_eq]
        exact hs.underway _ rfl
      | _ => cases hd
    · exact (h.plain (by simpa using hd) (by simpa using ho) he).listed (by decide) hs.toListed
  refine ⟨listed, fun screen hb => ?_⟩
  rw [(h.moves he).catalog_eq]
  rcases h.screen? hs.toListed hb with before | mem
  exacts [hs.underway screen before, mem]

lemma Moves.answers_eq (h : Moves w kinds s s') (hk : ∀ kind ∈ kinds, kind ∉ [.took, .started]) :
    s'.journal.answers = s.journal.answers :=
  h.preserve (R := fun a b => b.journal.answers = a.journal.answers) (fun _ => rfl)
    (fun _ _ _ hab hbc => hbc.trans hab) fun kind hm a b move => by
      obtain ⟨new, hj, left⟩ := move.entries
      rw [hj]
      exact Journal.answersWith_append (fun e he => (left e he).1) (hk kind hm)

lemma Moves.begun_of (h : Moves w kinds s s') (hk : .started ∉ kinds) {session : Session}
    {rotation : Rotation} {t : Instant} :
    .sessionBegun session rotation t ∈ s'.journal → .sessionBegun session rotation t ∈ s.journal :=
  h.preserve (R := fun a b => .sessionBegun session rotation t ∈ b.journal →
      .sessionBegun session rotation t ∈ a.journal) (fun _ => id) (fun _ _ _ hab hbc => hab ∘ hbc)
    fun kind hm a b move he => by
      obtain ⟨new, hj, left⟩ := move.entries
      rw [hj] at he
      rcases List.mem_append.mp he with fresh | old
      · have started := List.mem_singleton.mp (left _ fresh).1
        exact absurd (started ▸ hm) hk
      · exact old

lemma Moves.answered (h : Moves w kinds s s') (hk : ∀ kind ∈ kinds, kind ∉ [.took, .started])
    (hs : s.Answered c) : s'.Answered c := by
  have answers := h.answers_eq hk
  have begun : .started ∉ kinds := fun hm => hk _ hm (by decide)
  refine ⟨h.catalog_eq.trans hs.catalog, ?_, ?_⟩
  · rw [answers]
    exact hs.answers
  · rw [answers]
    exact fun session rotation t he => hs.begun session rotation t (h.begun_of begun he)

lemma TurnsDown.not_accepts {r : Request} {refusal : Refusal} (registered : c.Registered)
    (h : TurnsDown c r refusal) : ¬ (r.action = .start ∧ c.Accepts r) := by
  rintro ⟨start, accepts⟩
  rcases h with ⟨-, down⟩ | ⟨action, unknown, -⟩
  · obtain ⟨screen, ok⟩ := (exists_resolveRequest_ok_iff registered).mpr accepts
    cases ok.symm.trans down
  · cases start.symm.trans unknown

lemma pollOnDemand_answered (registered : c.Registered) (hs : s.Answered c) :
    (s.pollOnDemand w).2.Answered c := by
  have hp := pollOnDemand_polled w s
  generalize s.pollOnDemand w = polled at hp ⊢
  obtain ⟨answer, s'⟩ := polled
  have refused {r : Request} (h : ¬ (r.action = .start ∧ c.Accepts r)) : (s.heard w r).Answered c :=
    hs.heard_none ⟨iff_of_false nofun h, nofun⟩
  have stopping {r : Request} (stop : r.action = .stop) : (s.heard w r).Answered c :=
    refused fun h => nomatch h.1.symm.trans stop
  cases hp with
  | nothing =>
    have same : (s.receive w).takeRequest.2.journal = s.journal := takeRequest_journal _
    refine ⟨(takeRequest_catalog _).trans hs.catalog, ?_, ?_⟩
    · rw [same]
      exact hs.answers
    · rw [same]
      exact hs.begun
  | started r screen _ start ok =>
    rw [hs.catalog] at ok
    have answers (session : Session) (held : session.screen? = some screen) :
        Answers c r (some session) := by
      refine ⟨iff_of_true rfl ⟨start, ((resolveRequest_ok_iff registered).mp ok).1⟩, ?_⟩
      intro session' same other
      obtain rfl : session = session' := Option.some.inj same
      rw [means_of_resolveRequest registered ok, held, Option.some.injEq, eq_comm]
    exact (Moves.single (.published (w := w) _)).answered (by decide) (hs.heard_some answers)
  | turnedDown r refusal _ down =>
    rw [hs.catalog] at down
    have moves := (Moves.single (.refused (w := w) (s.heard w r) r refusal)).andThen
      (.single (.published _))
    exact moves.answered (by decide) (refused (down.not_accepts registered))
  | stopped r _ stop active =>
    have left : Move w .left (s.heard w r) _ := .left _ _ _ (.stopped (by rwa [heard_session]))
    exact ((Moves.single left).andThen (.single (.published _))).answered (by decide) (stopping stop)
  | ignored r _ stop =>
    exact (Moves.single (.published (w := w) _)).answered (by decide) (stopping stop)

lemma robust_answered (registered : c.Registered) (w : World σ) :
    Robust w (Answered c : Scheduler γ σ → Prop) where
  move {kind _ _} h hk hs := (Moves.single h).answered
    (by simp_all [commandKinds, sessionKinds]) hs
  poll _ hs := pollOnDemand_answered registered hs
  expire s hs := (checkExpiration_moves w s).answered (by decide) hs

lemma Step.answered (registered : c.Registered) (h : Step w a b) (he : EntitledAt a.1 a.2)
    (hs : a.2.Answered c) : b.2.Answered c := by
  by_cases hb : BreaksOff a.1
  · cases h with
    | concluded s selection ending =>
      exact ((conclude_moves w he).andThen (paceAfterPass_moves w _)).answered (by decide) hs
    | _ => exact hb.elim
  · exact (robust_answered registered w).step h he hb hs

lemma steps_listedAt (registered : c.Registered) {stage : Stage}
    (h : Steps w (.start, s) (stage, s')) (listed : s.Listed) (answered : s.Answered c) :
    ListedAt stage s' ∧ s'.Answered c :=
  h.invariant_of_entitled (fun stage (t : Scheduler γ σ) => ListedAt stage t ∧ t.Answered c)
    (fun _ _ step he hs => ⟨step.listedAt he hs.1, step.answered registered he hs.2⟩) trivial
    ⟨⟨listed, nofun⟩, answered⟩

lemma tick_invariant_of_known (registered : c.Registered) (hs : s.Listed ∧ s.Answered c)
    (Inv : Stage → Scheduler γ σ → Prop)
    (step : ∀ a b, Step w a b → EntitledAt a.1 a.2 →
      (∀ screen, a.1.screen? = some screen → a.2.catalog.hasProvider screen.provider) →
      Inv a.1 a.2 → Inv b.1 b.2) (h : Inv .start s) : Inv (.done (s.tick w).1) (s.tick w).2 := by
  refine ((tick_steps w s).invariant_of_entitled (fun stage (t : Scheduler γ σ) =>
    (ListedAt stage t ∧ t.Answered c) ∧ Inv stage t) ?_ trivial ⟨⟨⟨hs.1, nofun⟩, hs.2⟩, h⟩).2
  intro a b taken he ⟨⟨listed, answered⟩, inv⟩
  refine ⟨⟨taken.listedAt he listed, taken.answered registered he answered⟩, step a b taken he ?_ inv⟩
  intro screen underway
  have mem := listed.underway screen underway
  rw [answered.catalog] at mem ⊢
  exact registered.hasProvider mem

lemma perform_listed (registered : c.Registered) (op : Operation σ) (hs : s.Listed ∧ s.Answered c) :
    (s.perform w op).Listed ∧ (s.perform w op).Answered c := by
  have answered : Robust w (Answered c : Scheduler γ σ → Prop) := robust_answered registered w
  cases op with
  | tick =>
    have ticked := steps_listedAt registered (tick_steps w s) hs.1 hs.2
    exact ⟨ticked.1.toListed, ticked.2⟩
  | poll => exact ⟨(pollOnDemand_moves w s).listed (by decide) hs.1, answered.poll s hs.2⟩
  | expire => exact ⟨(checkExpiration_moves w s).listed (by decide) hs.1, answered.expire s hs.2⟩
  | advance =>
    have move := Move.rotated (w := w) s
    exact ⟨move.listed (by decide) hs.1, answered.move move (by decide) hs.2⟩
  | meanwhile span outside deadline =>
    have move := Move.elapsed (w := w) s span outside deadline
    exact ⟨move.listed (by decide) hs.1, answered.move move (by decide) hs.2⟩

lemma performAll_listed (u : Setup γ σ) (registered : u.catalog.Registered) (w : World σ)
    (ops : List (Operation σ)) :
    (u.scheduler.performAll w ops).Listed ∧ (u.scheduler.performAll w ops).Answered u.catalog :=
  performAll_keeps (P := fun s => s.Listed ∧ s.Answered u.catalog)
    (fun op _ _ hs => perform_listed registered op hs)
    ⟨listed_setup u, u.scheduler_catalog, by simp [Journal.answers, Journal.answersWith], by simp⟩

inductive Uses (w : World σ) (stage : Stage) (s : Scheduler γ σ) : Screen → Prop
  | chosen (selection : Selection) : (s.select w).1 = some selection → Uses w stage s selection.screen
  | live (screen : Screen) : (s.seekLive w).1 = some screen → Uses w stage s screen
  | underway (screen : Screen) : stage.screen? = some screen → Uses w stage s screen
  | session (screen : Screen) : s.session.screen? = some screen → Uses w stage s screen
  | onDisplay (screen : Screen) : s.rotation.onDisplay = some screen → Uses w stage s screen
  | written (e : Event) (screen : Screen) : e ∈ s.journal → e.screen? = some screen → Uses w stage s screen

lemma ListedAt.uses_mem {stage : Stage} (hs : ListedAt stage s) {screen : Screen}
    (h : Uses w stage s screen) : screen ∈ s.catalog.screens := by
  cases h with
  | chosen selection chosen => exact hs.select_mem chosen
  | live screen found => exact seekLive_mem found
  | underway screen underway => exact hs.underway screen underway
  | session screen held => exact hs.session screen held
  | onDisplay screen shown => exact hs.onDisplay screen shown
  | written e screen he put => exact hs.journal e he screen put

/-- However providers were registered, whatever a run of operations puts to use is a screen of the catalog,
and its provider is registered: what is chosen, live, shown, kept for a session or told of in the journal,
also in the middle of a tick. So no choice is ever turned away because its provider is unknown, and no frame
is. Each request that was taken is answered by a session exactly if it is a start that the catalog accepts,
and the screen of this session is the one that the request means; no session begins in another way. -/
theorem screens_in_use_are_registered (u : Setup γ σ) (registered : u.catalog.Registered) (w : World σ)
    (ops : List (Operation σ)) {stage : Stage} {s : Scheduler γ σ}
    (h : Steps w (.start, u.scheduler.performAll w ops) (stage, s)) :
    (∀ screen, Uses w stage s screen →
      screen ∈ u.catalog.screens ∧ u.catalog.hasProvider screen.provider) ∧
    (∀ selection, stage = .chosen selection → s.catalog.hasProvider selection.screen.provider) ∧
    (∀ p first, stage = .showing p first →
      (s.preemptionPending w p).2.catalog.hasProvider p.screen.provider) ∧
    (∀ r begun, (r, begun) ∈ s.journal.answers →
      (begun.isSome ↔ r.action = .start ∧ u.catalog.Accepts r) ∧
      ∀ session, begun = some session → ∀ screen, session.screen? = some screen ↔ u.catalog.Means r screen) ∧
    ∀ session rotation t, .sessionBegun session rotation t ∈ s.journal →
      ∃ r, (r, some session) ∈ s.journal.answers := by
  obtain ⟨before, answeredBefore⟩ := performAll_listed u registered w ops
  obtain ⟨listed, answered⟩ := steps_listedAt registered h before answeredBefore
  have uses (screen : Screen) (hu : Uses w stage s screen) :
      screen ∈ u.catalog.screens ∧ u.catalog.hasProvider screen.provider := by
    have mem := listed.uses_mem hu
    rw [answered.catalog] at mem
    exact ⟨mem, registered.hasProvider mem⟩
  refine ⟨uses, ?_, ?_, fun r begun => answered.answers (r, begun), answered.begun⟩
  · rintro selection rfl
    rw [answered.catalog]
    exact (uses _ (.underway _ rfl)).2
  · rintro p first rfl
    rw [(preemptionPending_moves w s p).catalog_eq, answered.catalog]
    exact (uses _ (.underway _ rfl)).2

def clashingCatalog : Catalog :=
  let scores := (Catalog.register {} "scores" ["recent", "live"]).value.1
  let clock := (scores.register "clock" ["live", "time", "date"]).value.1
  (clock.register "scores" ["table"]).value.1

def clockWanted : Request :=
  .startProvider "1" "clock"

def liveWanted : Request :=
  { Request.startMode "2" "live" with provider := some "clock" }

def clashing : Setup AlwaysHealthy Script where
  catalog := clashingCatalog
  settings := { defaultDuration := 1 }
  gate _ := .mk
  outside := { polls := [[clockWanted], [liveWanted]] }

theorem clashing_screens_in_use_are_registered :
    clashingCatalog.screens = [⟨"recent", "scores"⟩, ⟨"live", "scores"⟩, ⟨"time", "clock"⟩, ⟨"date", "clock"⟩] ∧
    clashingCatalog.Means clockWanted ⟨"time", "clock"⟩ ∧ ¬ clashingCatalog.Accepts liveWanted ∧
    (clashing.scheduler.tick Script.world).2.session.screen? = some ⟨"time", "clock"⟩ := by
  have registered : clashing.catalog.Registered :=
    .register "scores" ["table"] (.register "clock" ["live", "time", "date"]
      (.register "scores" ["recent", "live"] .empty))
  let ticked := (clashing.scheduler.tick Script.world).2
  obtain ⟨session, -, answers, held, kept⟩ : ∃ session ∈ ticked.journal.answers[1]?.bind Prod.snd,
      ticked.journal.answers = [(liveWanted, none), (clockWanted, some session)] ∧
      session.screen? = some ⟨"time", "clock"⟩ ∧ ticked.session.screen? = session.screen? := by
    decide +kernel
  obtain ⟨-, -, -, law, -⟩ := screens_in_use_are_registered clashing registered Script.world []
    (tick_steps Script.world clashing.scheduler)
  rw [answers] at law
  have meant := ((law clockWanted (some session) (by simp)).2 session rfl _).mp held
  have refused := (law liveWanted none (by simp)).1
  have unacceptable : ¬ clashingCatalog.Accepts liveWanted :=
    fun accepts => Bool.false_ne_true (refused.mpr ⟨rfl, accepts⟩)
  exact ⟨by decide, meant, unacceptable, kept.trans held⟩

end Scheduler

end Marquee
