import Marquee.Proofs.Catalog
import Marquee.Proofs.Scheduler.Robust
import Marquee.Proofs.Script
import Marquee.Proofs.Session.Fields
import Marquee.Proofs.Session.Record

/-! Why sessions end: they are stopped, their time is up or their screen cannot be drawn. Nothing else
that happens to the scheduler ends or alters one. -/

namespace Marquee

lemma Drawing.ofReply_eq_failed {reply : Except ProviderError Bool} {error : ProviderError} :
    Drawing.ofReply reply = .failed error ↔ reply = .error error := by
  cases reply with
  | ok shown => cases shown <;> exact iff_of_false (nomatch ·) (nomatch ·)
  | error e =>
    constructor
    · exact fun h => congrArg _ (Drawing.failed.inj h)
    · exact fun h => congrArg _ (Except.error.inj h)

def Event.isSequel : Event → Bool
  | .notice _ | .closed _ _ | .failed _ _ _ => true
  | _ => false

/-- The latest thing in the journal, but for entries that go with it, is a reason to end the session at
time `t`. It determines how the session is left. -/
inductive Journal.Reason {σ : Type} (w : World σ) (running : RunningSession) (t : Instant) :
    Journal → Session → Prop
  | stopped {r : Request} {j : Journal} : r.action = .stop →
      Reason w running t (.taken r t :: j) { status := .idle, lastEvent := some "stopped" }
  | expired {limit : SessionLimit} {j : Journal} : running.limit = some limit →
      running.pinned = false → limit.expiresAt ≤ t →
      Reason w running t j { status := .idle, lastEvent := some "expired" }
  | broken {f : Frame} {outside : σ} {error : ProviderError} {j : Journal} :
      (w.draw outside f.time f.screen f.forceClear).reply = .error error →
      f.drawing = .failed error → f.screen = running.screen → f.source = .onDemand →
      f.session.running = some running →
      Reason w running t (.drawn f :: j)
        { status := .error, error := some "display_failed", lastEvent := some "failed" }
  | later {e : Event} {j : Journal} {ended : Session} : e.isSequel → Reason w running t j ended →
      Reason w running t (e :: j) ended

def Journal.left? : Journal → Option Session
  | [] => none
  | .sessionOver ended _ _ :: _ => some ended
  | .sessionBegun _ _ _ :: _ => none
  | .notice (.refused _ _) :: _ => none
  | _ :: j => left? j

lemma Journal.left?_append {new j : Journal} {ended : Session}
    (hnew : ∀ e ∈ new, e.isSession = false) (h : left? (new ++ j) = some ended) :
    left? j = some ended := by
  induction new with
  | nil => exact h
  | cons e new ih =>
    refine ih (fun e he => hnew e (List.mem_cons_of_mem _ he)) ?_
    have quiet := hnew e List.mem_cons_self
    cases e with
    | sessionOver | sessionBegun => cases quiet
    | notice n =>
      cases n with
      | refused => cases h
      | _ => exact h
    | _ => exact h

lemma Journal.exists_isOver {new j : Journal} (h : (session? j).isSome)
    (h' : session? (new ++ j) = none) : ∃ e ∈ new, e.isOver := by
  induction new with
  | nil =>
    rw [List.nil_append] at h'
    simp [h'] at h
  | cons e new ih =>
    cases e with
    | sessionOver => exact ⟨_, List.mem_cons_self, rfl⟩
    | sessionBegun => cases h'
    | _ =>
      obtain ⟨e, he, hover⟩ := ih h'
      exact ⟨e, List.mem_cons_of_mem _ he, hover⟩

lemma Journal.Reason.append {σ : Type} {w : World σ} {running : RunningSession} {t : Instant}
    {new j : Journal} {ended : Session} (hnew : ∀ e ∈ new, e.isSequel)
    (h : j.Reason w running t ended) : Journal.Reason w running t (new ++ j) ended := by
  induction new with
  | nil => exact h
  | cons e new ih =>
    exact .later (hnew e List.mem_cons_self) (ih fun e he => hnew e (List.mem_cons_of_mem _ he))

def Event.HasReason {σ : Type} (w : World σ) (base : Journal) (e : Event) (before : Journal) : Prop :=
  match e with
  | .sessionOver ended _ t => ∃ session running, Journal.session? (before ++ base) = some session ∧
      session.running = some running ∧ before.Reason w running t ended
  | _ => True

lemma Event.isSession_of_leftBy {e : Event} {kind : MoveKind} (hk : kind ∉ Scheduler.sessionKinds)
    (h : kind ∈ e.leftBy) : e.isSession = false := by
  cases e with
  | sessionBegun | sessionOver =>
    rw [List.mem_singleton.mp h] at hk
    exact absurd (by decide) hk
  | _ => rfl

lemma Event.hasReason_of_not_isOver {σ : Type} {w : World σ} {base : Journal} {e : Event}
    (h : e.isOver = false) (before : Journal) : e.HasReason w base before := by
  cases e <;> simp_all [Event.isOver, Event.HasReason]

structure RunningSession.Sound (running : RunningSession) (c : Catalog) : Prop where
  known : running.screen ∈ c.screens
  loose : ∀ limit, running.limit = some limit → running.pinned = false

namespace Scheduler

variable {γ σ : Type} {s s' : Scheduler γ σ}

structure Vouched (s : Scheduler γ σ) : Prop where
  recorded : s.Recorded
  registered : s.catalog.Registered
  sound : ∀ running, s.session.running = some running → running.Sound s.catalog

structure Accountable (w : World σ) (base : Journal) (s : Scheduler γ σ) : Prop
    extends Vouched s where
  reasons : ∃ new, s.journal = new ++ base ∧ new.Always (Event.HasReason w base)

def Due (w : World σ) (base : Journal) (ended : Session) (s : Scheduler γ σ) : Prop :=
  ∃ new, s.journal = new ++ base ∧
    ∀ running, s.session.running = some running → new.Reason w running s.clock ended

lemma startSession_sound {screen : Screen} {r : Request} {running : RunningSession}
    (ok : resolveRequest s.catalog r = .ok screen)
    (hr : (s.startSession screen r).session.running = some running) :
    running.Sound s.catalog := by
  obtain rfl := Option.some.inj hr
  refine ⟨resolveRequest_mem ok, ?_⟩
  intro limit hlimit
  exact (Session.limitFor_eq_some_iff (a := ⟨screen, r.duration, r.pinned, none, s.clock, 0⟩)).mp
    hlimit |>.loose

lemma vouched_setup {u : Setup γ σ} (h : u.catalog.Registered) : u.scheduler.Vouched :=
  ⟨recorded_setup u, h, nofun⟩

variable {w : World σ} {base : Journal} {ended : Session}

lemma Accountable.due_stopped {r : Request} (hs : s.Accountable w base) (stop : r.action = .stop) :
    (s.heard w r).Due w base (s.session.finish "stopped") := by
  obtain ⟨new, hj, -⟩ := hs.reasons
  refine ⟨.taken r s.clock :: new, by rw [heard_journal, hj]; rfl, ?_⟩
  intro running _
  rw [heard_clock]
  exact .stopped stop

lemma Accountable.due_expired (hs : s.Accountable w base) (expired : s.session.isExpired s.clock) :
    s.Due w base (s.session.finish "expired") := by
  obtain ⟨new, hj, -⟩ := hs.reasons
  refine ⟨new, hj, ?_⟩
  intro running hr
  cases hlimit : running.limit with
  | none => simp [Session.isExpired, Session.limit?, hr, hlimit] at expired
  | some limit =>
    have passed : limit.expiresAt ≤ s.clock := by
      simpa [Session.isExpired, Session.limit?, hr, hlimit] using expired
    exact .expired hlimit ((hs.sound running hr).loose limit hlimit) passed

lemma Entitled.screen_eq {selection : Selection} {running : RunningSession}
    (h : s.Entitled selection) (onDemand : selection.source = .onDemand)
    (hr : s.session.running = some running) : selection.screen = running.screen := by
  rw [Entitled, onDemand] at h
  simpa [Session.screen?, hr] using h.symm

lemma Vouched.hasProvider {selection : Selection} (hs : s.Vouched) (h : s.Entitled selection)
    (onDemand : selection.source = .onDemand) : s.catalog.hasProvider selection.screen.provider := by
  obtain ⟨running, hr⟩ := Option.isSome_iff_exists.mp (h.isActive onDemand)
  rw [h.screen_eq onDemand hr]
  exact hs.registered.hasProvider (hs.sound running hr).known

lemma judge_ending {p : Showing} {ending : Ending} (h : (s.judge w p).1 = some ending) :
    ending = .completed ∨ ending = .cycleComplete := by
  unfold judge at h
  dsimp only at h
  split at h
  · exact .inl (Option.some.inj h).symm
  · exact .inr (Option.some.inj h).symm
  · cases h

def DueAt (w : World σ) (base : Journal) : Stage → Scheduler γ σ → Prop
  | .drawn p _ (.failed error), s => p.selection.source = .onDemand →
    s.Due w base (s.session.breakOff (.displayFailed error.message))
  | .over selection (.failed error), s => selection.source = .onDemand →
    s.Due w base (s.session.breakOff (.displayFailed error.message))
  | _, _ => True

lemma Accountable.draw_dueAt {p : Showing} (hs : s.Accountable w base)
    (entitled : s.Entitled p.selection) (first forceClear : Bool) :
    DueAt w base (.drawn p first (s.draw w p forceClear).1) (s.draw w p forceClear).2 := by
  cases hdrawing : (s.draw w p forceClear).1 with
  | failed error =>
    intro onDemand
    have registered := hs.hasProvider entitled onDemand
    obtain ⟨new, hj, -⟩ := hs.reasons
    refine ⟨_ :: new, congrArg _ hj, ?_⟩
    intro running hr
    have screen := entitled.screen_eq onDemand hr
    have reply : (w.draw s.outside s.clock p.screen forceClear).reply = .error error := by
      have known : s.catalog.hasProvider p.screen.provider := registered
      simp only [draw, known, if_true] at hdrawing
      exact Drawing.ofReply_eq_failed.mp hdrawing
    exact .broken reply hdrawing screen onDemand hr
  | _ => trivial

variable [HealthGate γ] {kinds : List MoveKind} {kind : MoveKind} {n : Notice}

lemma Move.sound (h : Move w kind s s')
    (hs : ∀ running, s.session.running = some running → running.Sound s.catalog) :
    ∀ running, s'.session.running = some running → running.Sound s.catalog := by
  by_cases hk : kind ∈ sessionKinds
  · cases h with
    | started s screen r ok => exact fun _ hr => startSession_sound ok hr
    | left s ended n leaves =>
      obtain ⟨ns, rotation, hleave⟩ := leaveSession_marks s ended n
      have none : (s.leaveSession ended n).session.running = none := by
        rw [hleave]
        exact leaves.running_eq_none
      simp [none]
    | refused s r refusal => exact hs
    | _ => simp [sessionKinds] at hk
  · rwa [h.kept.session hk]

lemma Move.vouched (h : Move w kind s s') (hs : s.Vouched) : s'.Vouched := by
  refine ⟨h.recorded hs.recorded, ?_, ?_⟩
  · rw [h.kept.catalog]
    exact hs.registered
  · rw [h.kept.catalog]
    exact h.sound hs.sound

lemma Move.accountable (h : Move w kind s s') (hk : kind ≠ .left) (hs : s.Accountable w base) :
    s'.Accountable w base := by
  obtain ⟨new, hj, always⟩ := hs.reasons
  obtain ⟨moved, hmoved, left⟩ := h.entries
  refine ⟨h.vouched hs.toVouched, moved ++ new, by rw [hmoved, hj, List.append_assoc], ?_⟩
  refine always.append fun e he j => Event.hasReason_of_not_isOver ?_ j
  cases e with
  | sessionOver => exact absurd (List.mem_singleton.mp (left _ he).1) hk
  | _ => rfl

lemma Moves.accountable (h : Moves w kinds s s') (hk : .left ∉ kinds) (hs : s.Accountable w base) :
    s'.Accountable w base :=
  h.keep (fun _ hm _ _ move => move.accountable (ne_of_mem_of_not_mem hm hk)) hs

def sequelKinds : List MoveKind :=
  [.counted, .noted, .failed, .closed]

lemma Move.due (h : Move w kind s s') (hk : kind ∈ sequelKinds) (hs : s.Due w base ended) :
    s'.Due w base ended := by
  obtain ⟨new, hj, reason⟩ := hs
  obtain ⟨moved, hmoved, left⟩ := h.entries
  have session : s'.session = s.session :=
    h.kept.session fun h => by revert hk h; cases kind <;> decide
  have clock : s'.clock = s.clock :=
    h.kept.clock fun h => by revert hk h; cases kind <;> decide
  refine ⟨moved ++ new, by rw [hmoved, hj, List.append_assoc], ?_⟩
  rw [session, clock]
  intro running hr
  refine (reason running hr).append fun e he => ?_
  have leftBy := (left e he).1
  cases e <;> simp_all [Event.leftBy, Event.isSequel, sequelKinds]

lemma Moves.due (h : Moves w kinds s s') (hk : kinds ⊆ sequelKinds) (hs : s.Due w base ended) :
    s'.Due w base ended :=
  h.keep (fun _ hm _ _ move => move.due (hk hm)) hs

lemma Accountable.leave (hs : s.Accountable w base) (due : s.Due w base ended)
    (leaves : s.Leaves ended n) : (s.leaveSession ended n).Accountable w base := by
  have vouched := (Move.left (w := w) s ended n leaves).vouched hs.toVouched
  obtain ⟨new, hj, always⟩ := hs.reasons
  obtain ⟨new', hj', reason⟩ := due
  obtain rfl : new' = new := List.append_cancel_right (hj'.symm.trans hj)
  obtain ⟨running, hr⟩ := Option.isSome_iff_exists.mp leaves.isActive
  obtain ⟨session, begun, hsession⟩ := hs.recorded.begun hr
  obtain ⟨ns, rotation, hleave⟩ := leaveSession_marks s ended n
  have noted : ∀ e ∈ (ns.map Event.notice).reverse, e.isSequel ∧ e.isSession = false := by
    simp [Event.isSequel, Event.isSession]
  rw [hleave] at vouched ⊢
  refine ⟨vouched, .sessionOver ended rotation s.clock :: ((ns.map Event.notice).reverse ++ new'),
    ?_, ⟨session, running, ?_, hsession, ?_⟩, ?_⟩
  · simp [log, note, hj]
  · rw [List.append_assoc, ← hj, Journal.session?_append fun e he => (noted e he).2, begun]
  · exact (reason running hr).append fun e he => (noted e he).1
  · refine always.append fun e he j => Event.hasReason_of_not_isOver ?_ j
    exact Event.isOver_of_not_isSession (noted e he).2

lemma pollOnDemand_accountable (hs : s.Accountable w base) :
    (s.pollOnDemand w).2.Accountable w base := by
  have hp := pollOnDemand_polled w s
  generalize s.pollOnDemand w = polled at hp ⊢
  obtain ⟨answer, s'⟩ := polled
  have heard (r : Request) : (s.heard w r).Accountable w base :=
    (heard_moves w s r).accountable (by decide) hs
  have publish {a : Scheduler γ σ} (ha : a.Accountable w base) : a.publish.Accountable w base :=
    (Move.published (w := w) a).accountable (by decide) ha
  cases hp with
  | nothing => exact (unheard_moves w s).accountable (by decide) hs
  | started r screen _ _ ok =>
    have move := Move.started (w := w) (s.heard w r) screen r (by rwa [heard_catalog])
    exact publish (move.accountable (by decide) (heard r))
  | turnedDown r refusal =>
    have move := Move.refused (w := w) (s.heard w r) r refusal
    exact publish (move.accountable (by decide) (heard r))
  | stopped r _ stop active =>
    exact publish ((heard r).leave (hs.due_stopped stop) (.stopped (by rwa [heard_session])))
  | ignored r => exact publish (heard r)

lemma checkExpiration_accountable (hs : s.Accountable w base) :
    s.checkExpiration.2.Accountable w base := by
  rw [checkExpiration_eq]
  split
  next expired =>
    have left := hs.leave (hs.due_expired expired) (.expired expired)
    exact (Move.published (w := w) _).accountable (by decide) left
  next => exact hs

lemma robust_accountable (w : World σ) (base : Journal) :
    Robust w (Accountable w base : Scheduler γ σ → Prop) where
  move h hk hs := h.accountable (ne_of_mem_of_not_mem (by decide) hk).symm hs
  poll _ hs := pollOnDemand_accountable hs
  expire _ hs := checkExpiration_accountable hs

lemma Step.dueAt {a b : Stage × Scheduler γ σ} (h : Step w a b) (he : EntitledAt a.1 a.2)
    (hs : a.2.Accountable w base) (hd : DueAt w base a.1 a.2) : DueAt w base b.1 b.2 := by
  cases h with
  | unregistered s selection _ unregistered =>
    intro onDemand
    have registered := hs.hasProvider he onDemand
    simp [unregistered] at registered
  | drew s p first _ _ stay =>
    have hp := preemptionPending_of_false w s stay
    have entitled : s.Entitled p.selection := he
    exact ((robust_accountable w base).preemptionPending p hs).draw_dueAt (entitled.calm hp.1) _ _
  | failed s p first error =>
    exact fun onDemand => (Move.closed (w := w) s _).due (by decide) (hd onDemand)
  | judged s p first drawing ending _ judged =>
    rcases judge_ending judged with rfl | rfl <;> trivial
  | _ => trivial

lemma Step.accountable {a b : Stage × Scheduler γ σ} (h : Step w a b) (he : EntitledAt a.1 a.2)
    (hs : a.2.Accountable w base) (hd : DueAt w base a.1 a.2) : b.2.Accountable w base := by
  -- The session breaks off only in the end, when the failure has been reported.
  by_cases hb : BreaksOff a.1
  · cases h with
    | concluded s selection ending =>
      obtain ⟨onDemand, error, rfl, hconclude⟩ := conclude_broken w hb s
      have moves := blamed_moves w selection error s
      have blamed := moves.accountable (by decide) hs
      have entitled : s.Entitled selection := he (by simp)
      have active := (entitled.calm (moves.calm (by decide))).isActive onDemand
      have left := blamed.leave (moves.due (by decide) (hd onDemand)) (.broken error active)
      rw [hconclude]
      exact ((Moves.single (.published (w := w) _)).andThen (paceAfterPass_moves w _)).accountable
        (by decide) left
    | _ => exact hb.elim
  · exact (robust_accountable w base).step h he hb hs

lemma perform_accountable (op : Operation σ) (hs : s.Accountable w base) :
    (s.perform w op).Accountable w base := by
  refine (robust_accountable w base).perform (fun hs => ?_) op hs
  exact ((tick_steps w s).invariant_of_entitled
    (fun stage s' => s'.Accountable w base ∧ DueAt w base stage s')
    (fun _ _ step he h => ⟨step.accountable he h.1 h.2, step.dueAt he h.1 h.2⟩) trivial
    ⟨hs, trivial⟩).1

lemma Move.left_eq (h : Move w kind s s')
    (hs : ∀ ended, s.journal.left? = some ended → s.session = ended) (ended : Session)
    (hleft : s'.journal.left? = some ended) : s'.session = ended := by
  by_cases hk : kind ∈ sessionKinds
  · cases h with
    | started s screen r =>
      obtain ⟨ns, ns', session, running, hstart, -⟩ := startSession_eq s screen r
      rw [hstart] at hleft
      cases hleft
    | left s ended' n =>
      obtain ⟨ns, rotation, hleave⟩ := leaveSession_marks s ended' n
      rw [hleave] at hleft ⊢
      exact Option.some.inj hleft
    | refused s r refusal => cases hleft
    | _ => simp [sessionKinds] at hk
  · obtain ⟨new, hj, left⟩ := h.entries
    rw [hj] at hleft
    rw [h.kept.session hk]
    exact hs ended
      (Journal.left?_append (fun e he => Event.isSession_of_leftBy hk (left e he).1) hleft)

/-- Whatever the operations, a session that was active and no longer is has ended in between, and each end
had a reason of its own: a request to stop the session had just been taken, its time was up, which never
happens to a pinned or an unbounded session, or its own screen could not be drawn on demand. It leaves the
session as the reason says, and without an entry about it the session runs on as it was. -/
theorem session_ends_for_a_reason (u : Setup γ σ) (registered : u.catalog.Registered) (w : World σ)
    (ops ops' : List (Operation σ)) :
    let s := u.scheduler.performAll w ops
    let s' := s.performAll w ops'
    ∃ new, s'.journal = new ++ s.journal ∧
      (s.session.isActive → s'.session.isActive = false → ∃ e ∈ new, e.isOver) ∧
      (∀ (later earlier : Journal) ended rotation t,
        new = later ++ .sessionOver ended rotation t :: earlier →
        ∃ session running, Journal.session? (earlier ++ s.journal) = some session ∧
          session.running = some running ∧ earlier.Reason w running t ended) ∧
      ((∀ e ∈ new, e.isSession = false) → s'.session.running = s.session.running) ∧
      ∀ ended, s'.journal.left? = some ended → s'.session = ended := by
  intro s s'
  have vouched : s.Vouched :=
    performAll_of_moves (fun _ _ _ move => move.vouched) (vouched_setup registered) ops
  have accountable : s'.Accountable w s.journal :=
    performAll_keeps (fun op _ _ hs => perform_accountable op hs) ⟨vouched, [], rfl, trivial⟩
  obtain ⟨new, hj, always⟩ := accountable.reasons
  refine ⟨new, hj, ?_, ?_, ?_, ?_⟩
  · intro active inactive
    rw [vouched.recorded.isActive] at active
    rw [accountable.recorded.isActive, hj, Option.isSome_eq_false_iff, Option.isNone_iff_eq_none]
      at inactive
    exact Journal.exists_isOver active inactive
  · rintro later earlier ended rotation t rfl
    exact always.of_split
  · intro quiet
    have recorded := accountable.recorded
    rw [Recorded, hj, Journal.session?_append quiet, vouched.recorded] at recorded
    exact (Option.map_injective (Option.some_injective _) recorded).symm
  · have asLeft : ∀ kind (a b : Scheduler γ σ), Move w kind a b →
        (∀ ended, a.journal.left? = some ended → a.session = ended) →
        ∀ ended, b.journal.left? = some ended → b.session = ended :=
      fun _ _ _ move => move.left_eq
    exact performAll_of_moves asLeft (performAll_of_moves asLeft (fun _ h => by cases h) ops) ops'

def unseenSession : Script :=
  { polls := [[{ Request.startMode "1" "scores_live" with duration := some 1, pinned := true }]]
    broken := [⟨"scores_live", "scores"⟩] }

def unseenSession.shown : Scheduler AlwaysHealthy Script :=
  (unseenSession.play [.poll]).performAll Script.world [.expire, .advance, .tick]

theorem unseen_session_breaks_off :
    (unseenSession.play [.poll]).session.isPinned ∧
    ∃ (new earlier : Journal) (running : RunningSession) (ended : Session),
      unseenSession.shown.journal = new ++ (unseenSession.play [.poll]).journal ∧
      (∃ e ∈ new, e.isOver) ∧ running.pinned ∧ earlier.Reason Script.world running 0 ended ∧
      unseenSession.shown.session = ended ∧ ended.error = some "display_failed" := by
  have registered : unseenSession.setup.catalog.Registered :=
    .register "clock" ["clock"] (.register "scores" ["scores_recent", "scores_live"] .empty)
  obtain ⟨new, hj, ends, reasons, -, left⟩ := session_ends_for_a_reason unseenSession.setup registered
    Script.world [.poll] [.expire, .advance, .tick]
  let before := (unseenSession.play [.poll]).journal
  let j := unseenSession.shown.journal
  have length : new.length = 11 := by
    have total : j.length = 11 + before.length := by decide +kernel
    exact Nat.add_right_cancel ((List.length_append.symm.trans (congrArg List.length hj.symm)).trans total)
  obtain rfl : j.take 11 = new := (congrArg (List.take 11) hj).trans (List.take_left' length)
  obtain ⟨⟨-, rotation, -⟩, ended, rfl, rfl⟩ : ∃ entry ∈ Journal.at? (j.take 11) 1 Event.over?,
      entry.1 = Session.breakOff {} (.displayFailed "gone") ∧ entry.2.2 = 0 := by
    decide +kernel
  have begun : Journal.session? ((j.take 11).drop 2 ++ before) = some (unseenSession.play [.poll]).session := by
    decide +kernel
  obtain ⟨session, running, hsession, hrunning, reason⟩ :=
    reasons _ _ _ rotation 0 (Journal.split_at ended fun _ => Event.eq_of_over?)
  cases hsession.symm.trans begun
  cases hrunning
  exact ⟨rfl, _, _, _, _, hj, ends rfl (by decide +kernel), rfl, reason, left _ (by decide +kernel), rfl⟩

end Scheduler

end Marquee
