import Marquee.OnDemand.StoredSession
import Marquee.Proofs.Number.Order
import Marquee.Proofs.Scheduler.Kept
import Marquee.Proofs.Scheduler.Operation

/-! What a session holds after any calls: what it was last started with, and nothing once it is over. -/

namespace Marquee

structure SessionStart where
  screen : Screen
  duration : Option Float := none
  pinned : Bool := false
  resume : Option Nat := none
  now : Instant := 0
  wall : Float := 0

inductive SessionCall
  | start (a : SessionStart)
  | finish (event : String)
  | breakOff (refusal : Refusal)
  | reject (refusal : Refusal)

namespace SessionCall

def start? : SessionCall → Option SessionStart
  | .start a => some a
  | _ => none

def isEnd : SessionCall → Bool
  | .finish _ | .breakOff _ => true
  | _ => false

end SessionCall

structure SessionStart.Bounds (a : SessionStart) (limit : SessionLimit) : Prop where
  asked : a.duration = some limit.seconds
  loose : a.pinned = false
  finite : limit.seconds.isFinite
  pos : 0 < limit.seconds
  reached : (Span.ofSeconds? limit.seconds).bind (Instant.add? a.now) = some limit.expiresAt

namespace Session

variable {s : Session} {a : SessionStart} {limit : SessionLimit}

def apply (s : Session) : SessionCall → Session
  | .start a => (s.start a.screen a.duration a.pinned a.resume a.now a.wall).value
  | .finish event => s.finish event
  | .breakOff refusal => s.breakOff refusal
  | .reject refusal => s.reject refusal

-- The latest call comes first.
def after : List SessionCall → Session
  | [] => {}
  | call :: earlier => (after earlier).apply call

/-- The starts that no end has followed, the latest first. -/
def chain (calls : List SessionCall) : List SessionStart :=
  (calls.takeWhile fun call => !call.isEnd).filterMap SessionCall.start?

def ofChain (starts : List SessionStart) : Option RunningSession :=
  starts.head?.map fun a =>
    { screen := a.screen
      requestedAt := a.now
      requestedAtWall := a.wall
      limit := (limitFor a.duration a.pinned a.now).value
      pinned := a.pinned
      resume := starts.getLast?.bind SessionStart.resume }

lemma limitFor_eq_some_iff :
    (limitFor a.duration a.pinned a.now).value = some limit ↔ a.Bounds limit := by
  obtain ⟨screen, duration, pinned, resume, now, wall⟩ := a
  obtain ⟨seconds, expiresAt⟩ := limit
  unfold limitFor
  dsimp only
  cases duration with
  | none => exact iff_of_false (nomatch ·) (nomatch ·.asked)
  | some requested =>
    dsimp only
    split
    next unbounded =>
      refine iff_of_false (nomatch ·) ?_
      rintro ⟨asked, loose, finite, pos, -⟩
      obtain rfl : requested = seconds := Option.some.inj asked
      have above := (Number.pos_iff_not_le_zero finite).mp pos
      simp_all
    next bounded =>
      have ⟨⟨loose, finite⟩, above⟩ : (pinned = false ∧ requested.isFinite) ∧ ¬ requested ≤ 0 := by
        simpa using bounded
      have pos := (Number.pos_iff_not_le_zero finite).mpr above
      split
      next expiry reached =>
        constructor
        · intro h
          obtain ⟨rfl, rfl⟩ : requested = seconds ∧ expiry = expiresAt := by simpa using h
          exact ⟨rfl, loose, finite, pos, reached⟩
        · rintro ⟨asked, -, -, -, reached'⟩
          obtain rfl : requested = seconds := Option.some.inj asked
          obtain rfl : expiry = expiresAt := Option.some.inj (reached.symm.trans reached')
          rfl
      next unreached =>
        refine iff_of_false (nomatch ·) ?_
        rintro ⟨asked, -, -, -, reached⟩
        obtain rfl : requested = seconds := Option.some.inj asked
        simp [unreached] at reached

lemma after_running (calls : List SessionCall) : (after calls).running = ofChain (chain calls) := by
  induction calls with
  | nil => rfl
  | cons call calls ih =>
    cases call with
    | finish event => rfl
    | breakOff refusal => rfl
    | reject refusal => exact ih
    | start a =>
      have kept : (if (after calls).isActive then (after calls).resume? else a.resume) =
          (a :: chain calls).getLast?.bind SessionStart.resume := by
        rw [isActive, resume?, ih]
        cases chain calls with
        | nil => rfl
        | cons b earlier => rw [List.getLast?_cons_cons]; rfl
      change some _ = some _
      rw [kept]
      rfl

lemma after_isActive (calls : List SessionCall) :
    (after calls).isActive ↔ chain calls ≠ [] := by
  rw [isActive, after_running]
  cases chain calls <;> simp [ofChain]

lemma after_status (calls : List SessionCall) :
    (after calls).isActive ↔ (after calls).status = .active := by
  induction calls with
  | nil => decide
  | cons call calls ih =>
    cases call with
    | start a => exact iff_of_true rfl rfl
    | finish event => exact iff_of_false (nomatch ·) (nomatch ·)
    | breakOff refusal => exact iff_of_false (nomatch ·) (nomatch ·)
    | reject refusal =>
      change (after calls).isActive ↔ (if (after calls).isActive then _ else _) = _
      split
      next active => exact ih
      next inactive => exact iff_of_false inactive (nomatch ·)

end Session

namespace StoredSession

def apply (s : StoredSession) : SessionCall → StoredSession
  | .start a => (s.start a.screen a.duration a.pinned a.resume a.now a.wall).value
  | .finish event => (s.finish event).2
  | .breakOff refusal => (s.breakOff refusal).2
  | .reject refusal => s.reject refusal

def after : List SessionCall → StoredSession
  | [] => {}
  | call :: earlier => (after earlier).apply call

end StoredSession

namespace Session

lemma stored_start (s : Session) (screen : Screen) (duration : Option Float) (pinned : Bool)
    (resume : Option Nat) (now : Instant) (wall : Float) :
    let started := s.start screen duration pinned resume now wall
    s.stored.start screen duration pinned resume now wall = ⟨started.value.stored, started.notices⟩ :=
  rfl

lemma stored_finish (s : Session) (event : String) :
    s.stored.finish event = (s.resume?, (s.finish event).stored) :=
  rfl

lemma stored_breakOff (s : Session) (refusal : Refusal) :
    s.stored.breakOff refusal = (s.resume?, (s.breakOff refusal).stored) :=
  rfl

lemma stored_reject (s : Session) (refusal : Refusal) :
    s.stored.reject refusal = (s.reject refusal).stored :=
  rfl

lemma stored_apply (s : Session) (call : SessionCall) : s.stored.apply call = (s.apply call).stored := by
  cases call with
  | start a => exact congrArg Noted.value (s.stored_start a.screen a.duration a.pinned a.resume a.now a.wall)
  | finish event => exact congrArg Prod.snd (s.stored_finish event)
  | breakOff refusal => exact congrArg Prod.snd (s.stored_breakOff refusal)
  | reject refusal => exact s.stored_reject refusal

lemma stored_isExpired (s : Session) (now : Instant) : s.stored.isExpired now = s.isExpired now := by
  obtain ⟨running, status, error, lastEvent⟩ := s
  cases running with
  | none => rfl
  | some running =>
    obtain ⟨screen, requestedAt, wall, limit, pinned, resume⟩ := running
    cases limit <;> rfl

lemma stored_remaining (s : Session) (now : Instant) : s.stored.remaining now = s.remaining now :=
  rfl

lemma stored_snapshot (s : Session) (now : Instant) : s.stored.snapshot now = s.snapshot now := by
  obtain ⟨running, status, error, lastEvent⟩ := s
  cases running with
  | none => rfl
  | some running =>
    obtain ⟨screen, requestedAt, wall, limit, pinned, resume⟩ := running
    cases limit <;> rfl

end Session

namespace StoredSession

variable {s : StoredSession} {a : SessionStart}

lemma after_eq_stored (calls : List SessionCall) : after calls = (Session.after calls).stored := by
  induction calls with
  | nil => rfl
  | cons call earlier ih => rw [after, ih, Session.stored_apply, Session.after]

/-- What a session holds that was started last with `a`, and whose chain of starts began with `first`. -/
structure Holds (s : StoredSession) (a first : SessionStart) : Prop where
  screen : s.screen = some a.screen
  requestedAt : s.requestedAt = some a.now
  requestedAtWall : s.requestedAtWall = some a.wall
  pinned : s.pinned = a.pinned
  resume : s.resume = first.resume
  bounded : ∀ seconds expiry, s.duration = some seconds ∧ s.expiresAt = some expiry ↔
    a.Bounds ⟨seconds, expiry⟩
  paired : s.expiresAt.isSome ↔ s.duration.isSome
  notBefore : ∀ expiry, s.expiresAt = some expiry → a.now ≤ expiry

structure Blank (s : StoredSession) : Prop where
  screen : s.screen = none
  requestedAt : s.requestedAt = none
  requestedAtWall : s.requestedAtWall = none
  expiresAt : s.expiresAt = none
  duration : s.duration = none
  pinned : s.pinned = false
  resume : s.resume = none

lemma holds_of_chain {t : Session} {starts : List SessionStart} {first : SessionStart}
    (h : t.running = Session.ofChain starts) (last : starts.head? = some a)
    (begun : starts.getLast? = some first) : t.stored.Holds a first := by
  obtain ⟨running, status, error, lastEvent⟩ := t
  rw [Session.ofChain, last, begun] at h
  obtain rfl : running = _ := h
  have bounds : ∀ limit, (Session.limitFor a.duration a.pinned a.now).value = some limit ↔ a.Bounds limit :=
    fun _ => Session.limitFor_eq_some_iff
  refine ⟨rfl, rfl, rfl, rfl, rfl, ?_, ?_, ?_⟩
  · intro seconds expiry
    rw [← bounds]
    change Option.map _ (Session.limitFor _ _ _).value = _ ∧ Option.map _ (Session.limitFor _ _ _).value = _ ↔ _
    cases (Session.limitFor a.duration a.pinned a.now).value with
    | none => simp
    | some limit =>
      obtain ⟨seconds', expiry'⟩ := limit
      simp
  · change (Option.map _ _).isSome ↔ (Option.map _ _).isSome
    rw [Option.isSome_map, Option.isSome_map]
  · intro expiry hexpiry
    obtain ⟨limit, hlimit, rfl⟩ := Option.map_eq_some_iff.mp hexpiry
    obtain ⟨span, -, hsum⟩ := Option.bind_eq_some_iff.mp ((bounds limit).mp hlimit).reached
    rw [Instant.add?] at hsum
    split at hsum
    · exact Option.some.inj hsum ▸ Nat.le_add_right a.now span
    · cases hsum

lemma blank_of_running_eq_none {t : Session} (h : t.running = none) : t.stored.Blank := by
  obtain ⟨running, status, error, lastEvent⟩ := t
  obtain rfl : running = none := h
  exact ⟨rfl, rfl, rfl, rfl, rfl, rfl, rfl⟩

lemma isExpired_iff (s : StoredSession) (now : Instant) :
    s.isExpired now ↔ s.active ∧ s.remaining now = some 0 := by
  rw [isExpired, remaining, Bool.and_eq_true]
  refine and_congr_right fun active => ?_
  rw [if_pos active]
  cases s.expiresAt with
  | none => exact iff_of_false nofun nofun
  | some expiry =>
    rw [Option.any_some, decide_eq_true_iff, Option.map_some, Option.some_inj, Instant.since,
      Nat.sub_eq_zero_iff_le]

lemma remaining_eq_none_iff (s : StoredSession) (now : Instant) :
    s.remaining now = none ↔ s.active ∧ s.expiresAt = none := by
  rw [remaining]
  split
  next active => simp [active]
  next inactive => simp [inactive]

/-- After any calls a session is active exactly if it was started and has not ended since, and its status
says so. It then holds what it was started with last, is bounded if that start asks for it, and goes back
to where rotation was first left; otherwise it holds nothing. A command that is turned down leaves all
that as it is. Time is up when none remains, and what remains is unknown only without a bound. -/
theorem session_holds_last_start (calls : List SessionCall) :
    let s := after calls
    (s.active ↔ s.status = .active) ∧ (s.active ↔ Session.chain calls ≠ []) ∧
    (s.active → ∃ a first, (Session.chain calls).head? = some a ∧
      (Session.chain calls).getLast? = some first ∧ s.Holds a first) ∧
    (¬ s.active → s.Blank) ∧
    (∀ refusal, ∃ status,
      s.reject refusal = { s with status, error := some refusal.code, lastEvent := some "rejected" } ∧
      (s.active → status = s.status) ∧ (¬ s.active → status = .error)) ∧
    ∀ now, (s.isExpired now ↔ s.active ∧ s.remaining now = some 0) ∧
      (s.remaining now = none ↔ s.active ∧ s.expiresAt = none) := by
  intro s
  have same : s = (Session.after calls).stored := after_eq_stored calls
  have started : s.active ↔ Session.chain calls ≠ [] := same ▸ Session.after_isActive calls
  refine ⟨same ▸ Session.after_status calls, started, fun active => ?_, fun inactive => ?_, fun refusal => ?_,
    fun now => ⟨s.isExpired_iff now, s.remaining_eq_none_iff now⟩⟩
  · have some := started.mp active
    rw [same]
    exact ⟨_, _, List.head?_eq_some_head some, List.getLast?_eq_some_getLast some,
      holds_of_chain (Session.after_running calls) (List.head?_eq_some_head some)
        (List.getLast?_eq_some_getLast some)⟩
  · rw [same] at inactive ⊢
    exact blank_of_running_eq_none (Option.not_isSome_iff_eq_none.mp inactive)
  · exact ⟨_, rfl, fun active => if_pos active, fun inactive => if_neg inactive⟩

def replacedByPinned : List SessionCall :=
  [.reject .missingTarget,
    .start { screen := ⟨"news", "feed"⟩, duration := some 1.5, pinned := true, resume := some 4, now := 7 },
    .start { screen := ⟨"clock", "time"⟩, duration := some 1.5, resume := some 2, now := 5 },
    .breakOff (.displayFailed "dark")]

theorem pinned_replacement_holds_no_bound :
    (∃ a first, (after replacedByPinned).Holds a first ∧ a.screen = ⟨"news", "feed"⟩ ∧
      first.resume = some 2 ∧ (after replacedByPinned).expiresAt = none) ∧
    (∃ a, a.Bounds ⟨1.5, 1500000005⟩ ∧ (after (replacedByPinned.drop 2)).Holds a a) ∧
    (after (.finish "stopped" :: replacedByPinned)).Blank := by
  refine ⟨?_, ?_, ?_⟩
  · obtain ⟨a, first, ha, hfirst, holds⟩ := (session_holds_last_start replacedByPinned).2.2.1 rfl
    cases ha
    cases hfirst
    exact ⟨_, _, holds, rfl, rfl, rfl⟩
  · obtain ⟨a, first, ha, hfirst, holds⟩ :=
      (session_holds_last_start (replacedByPinned.drop 2)).2.2.1 rfl
    cases ha
    cases hfirst
    have bounded := (holds.bounded 1.5 1500000005).mp (by decide +kernel)
    exact ⟨_, bounded, holds⟩
  · exact (session_holds_last_start (.finish "stopped" :: replacedByPinned)).2.2.2.1 nofun

end StoredSession

namespace Scheduler

variable {γ σ : Type} {s s' : Scheduler γ σ}

lemma Leaves.called {ended : Session} {n : Notice} (h : s.Leaves ended n) :
    ∃ call, ended = s.session.apply call := by
  cases h with
  | stopped => exact ⟨.finish "stopped", rfl⟩
  | expired => exact ⟨.finish "expired", rfl⟩
  | broken error => exact ⟨.breakOff (.displayFailed error.message), rfl⟩

variable [HealthGate γ] {w : World σ} {kind : MoveKind}

lemma Move.session_called (h : Move w kind s s') :
    s'.session = s.session ∨ ∃ call, s'.session = s.session.apply call := by
  by_cases hk : kind ∈ sessionKinds
  · right
    cases h with
    | started s screen r => exact ⟨.start ⟨screen, r.duration, r.pinned, _, s.clock, _⟩, rfl⟩
    | left s ended n leaves =>
      obtain ⟨ns, rotation, left⟩ := leaveSession_marks s ended n
      rw [left]
      exact leaves.called
    | refused s r refusal => exact ⟨.reject refusal, rfl⟩
    | _ => simp [sessionKinds] at hk
  · exact .inl (h.kept.session hk)

theorem session_comes_of_calls (w : World σ) (u : Setup γ σ) (ops : List (Operation σ)) :
    let s := u.scheduler.performAll w ops
    ∃ calls, s.session = Session.after calls ∧ s.session.stored = StoredSession.after calls ∧
      ∀ now, s.session.isExpired now = (StoredSession.after calls).isExpired now ∧
        s.session.remaining now = (StoredSession.after calls).remaining now ∧
        s.session.snapshot now = (StoredSession.after calls).snapshot now := by
  intro s
  have called : ∃ calls, s.session = Session.after calls := by
    refine performAll_of_moves (P := fun s => ∃ calls, s.session = Session.after calls) ?_ ⟨[], rfl⟩ ops
    rintro kind a b move ⟨calls, same⟩
    rcases move.session_called with kept | ⟨call, applied⟩
    · exact ⟨calls, kept.trans same⟩
    · exact ⟨call :: calls, by rw [applied, same, Session.after]⟩
  obtain ⟨calls, same⟩ := called
  refine ⟨calls, same, by rw [same, StoredSession.after_eq_stored], fun now => ?_⟩
  rw [StoredSession.after_eq_stored, ← same, Session.stored_isExpired, Session.stored_remaining,
    Session.stored_snapshot]
  exact ⟨rfl, rfl, rfl⟩

end Scheduler

end Marquee
