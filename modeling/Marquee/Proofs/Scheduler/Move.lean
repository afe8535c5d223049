import Mathlib.Logic.Relation
import Mathlib.Tactic.Lemma
import Marquee.Scheduler.Tick

namespace Marquee

inductive MoveKind
  | noted
  | inquired
  | received
  | took
  | started
  | left
  | refused
  | published
  | rotated
  | setAside
  | succeeded
  | failed
  | counted
  | looked
  | turned
  | acknowledged
  | relaxed
  | blanked
  | opened
  | drew
  | maintained
  | slept
  | closed
  | elapsed
  deriving DecidableEq

namespace Event

def isInquiry : Event → Bool
  | .liveSought _ _ | .liveAsked _ _ _ | .cycleAsked _ _ _ => true
  | _ => false

def until? : Event → Option Instant
  | .slept t span => some (t + span)
  | .drawn f => some f.time
  | .opened _ _ t | .cycleRestarted _ t | .cycleAsked _ _ t | .liveSought _ t | .liveAsked _ _ t
  | .maintained t | .published _ t | .taken _ t | .sessionBegun _ _ t | .sessionOver _ _ t
  | .succeeded _ t | .failed _ _ t | .closed _ t => some t
  | .notice _ | .rotated _ => none

end Event

namespace Scheduler

variable {γ σ : Type}

/-- What is shown on demand is the screen of the session; for anything else there is no session. -/
def Entitled (selection : Selection) (s : Scheduler γ σ) : Prop :=
  match selection.source with
  | .onDemand => s.session.screen? = some selection.screen
  | _ => s.session.running = none

inductive Leaves (s : Scheduler γ σ) : Session → Notice → Prop
  | stopped : s.session.isActive → Leaves s (s.session.finish "stopped") (.sessionEnded "stopped")
  | expired : s.session.isExpired s.clock →
      Leaves s (s.session.finish "expired") (.sessionEnded "expired")
  | broken (error : ProviderError) : s.session.isActive →
      Leaves s (s.session.breakOff (.displayFailed error.message)) (.sessionBroken error)

variable [HealthGate γ] {w : World σ} {s s' s'' : Scheduler γ σ}

inductive Move (w : World σ) : MoveKind → Scheduler γ σ → Scheduler γ σ → Prop
  | noted (s : Scheduler γ σ) (ns : List Notice) : Move w .noted s (s.note ns)
  | inquired (s : Scheduler γ σ) (e : Event) : e.isInquiry → e.until? = some s.clock →
      Move w .inquired s (s.log e)
  | received (s : Scheduler γ σ) : Move w .received s (s.receive w)
  | emptied (s : Scheduler γ σ) : Move w .took s s.takeRequest.2
  | took (s : Scheduler γ σ) (r : Request) : Move w .took s (s.log (.taken r s.clock))
  | started (s : Scheduler γ σ) (screen : Screen) (r : Request) :
      resolveRequest s.catalog r = .ok screen → Move w .started s (s.startSession screen r)
  | left (s : Scheduler γ σ) (ended : Session) (n : Notice) : s.Leaves ended n →
      Move w .left s (s.leaveSession ended n)
  | refused (s : Scheduler γ σ) (r : Request) (refusal : Refusal) :
      Move w .refused s (s.reject r refusal)
  | published (s : Scheduler γ σ) : Move w .published s s.publish
  | rotated (s : Scheduler γ σ) : Move w .rotated s s.advanceRotation
  | setAside (s : Scheduler γ σ) (provider : ProviderId) :
      Move w .setAside s (s.skipProvider provider)
  | succeeded (s : Scheduler γ σ) (provider : ProviderId) :
      Move w .succeeded s (s.reportSuccess provider)
  | failed (s : Scheduler γ σ) (provider : ProviderId) (error : ProviderError) :
      Move w .failed s (s.reportFailure provider error)
  | counted (s : Scheduler γ σ) (c : Counters) : Move w .counted s { s with counters := c }
  | looked (s : Scheduler γ σ) : Move w .looked s { s with lastLiveCheck := some s.clock }
  | turned (s : Scheduler γ σ) (phase : Phase) : Move w .turned s { s with phase }
  | acknowledged (s : Scheduler γ σ) : Move w .acknowledged s { s with shownThisPass := true }
  | relaxed (s : Scheduler γ σ) : Move w .relaxed s { s with idlePass := false }
  | blanked (s : Scheduler γ σ) :
      Move w .blanked s { s with rotation := { s.rotation with onDisplay := none } }
  | opened (s : Scheduler γ σ) (selection : Selection) :
      Move w .opened s (s.openShowing w selection).2
  | drew (s : Scheduler γ σ) (p : Showing) (forceClear : Bool) : s.Entitled p.selection →
      s.session.isExpired s.clock = false → Move w .drew s (s.draw w p forceClear).2
  | maintained (s : Scheduler γ σ) : Move w .maintained s (s.maintain w)
  | slept (s : Scheduler γ σ) (nap : Span) : Move w .slept s (s.sleep (s.bounded nap))
  | closed (s : Scheduler γ σ) (ending : Ending) :
      Move w .closed s (s.log (.closed ending s.clock))
  | elapsed (s : Scheduler γ σ) (span : Span) (outside : σ) (deadline : Option Instant) :
      Move w .elapsed s { s with clock := s.clock + span, outside, deadline }

def Moves (w : World σ) (kinds : List MoveKind) : Scheduler γ σ → Scheduler γ σ → Prop :=
  Relation.ReflTransGen fun a b => ∃ kind ∈ kinds, Move w kind a b

namespace Moves

variable {kinds kinds' : List MoveKind}

lemma refl (s : Scheduler γ σ) : Moves w kinds s s :=
  Relation.ReflTransGen.refl

lemma trans (h : Moves w kinds s s') (h' : Moves w kinds s' s'') : Moves w kinds s s'' :=
  Relation.ReflTransGen.trans h h'

lemma single {kind : MoveKind} (h : Move w kind s s') : Moves w [kind] s s' :=
  Relation.ReflTransGen.single ⟨kind, List.mem_singleton_self kind, h⟩

lemma mono (h : Moves w kinds s s') (hk : kinds ⊆ kinds') : Moves w kinds' s s' :=
  Relation.ReflTransGen.mono (fun _ _ ⟨kind, hm, move⟩ => ⟨kind, hk hm, move⟩) _ _ h

lemma andThen (h : Moves w kinds s s') (h' : Moves w kinds' s' s'') :
    Moves w (kinds ++ kinds') s s'' :=
  (h.mono (List.subset_append_left _ _)).trans (h'.mono (List.subset_append_right _ _))

lemma preserve {R : Scheduler γ σ → Scheduler γ σ → Prop} (h : Moves w kinds s s')
    (refl : ∀ a, R a a) (trans : ∀ a b c, R a b → R b c → R a c)
    (move : ∀ kind ∈ kinds, ∀ a b, Move w kind a b → R a b) : R s s' := by
  induction h with
  | refl => exact refl s
  | tail _ hm ih =>
    obtain ⟨kind, hk, hm⟩ := hm
    exact trans _ _ _ ih (move kind hk _ _ hm)

lemma keep {P : Scheduler γ σ → Prop} (h : Moves w kinds s s')
    (move : ∀ kind ∈ kinds, ∀ a b, Move w kind a b → P a → P b) : P s → P s' :=
  h.preserve (R := fun a b => P a → P b) (fun _ => id) (fun _ _ _ hab hbc => hbc ∘ hab) move

end Moves

section

variable (w : World σ) (s : Scheduler γ σ)

lemma absorb_moves {α : Type} (a : Noted α) : Moves w [.noted] s (s.absorb a).2 :=
  .single (.noted s a.notices)

lemma seekLive_moves : Moves w [.noted, .inquired] s (s.seekLive w).2 :=
  (absorb_moves w s _).andThen (.single (.inquired _ (.liveSought _ _) rfl rfl))

lemma providerIsLive_moves (provider : ProviderId) :
    Moves w [.noted, .inquired] s (s.providerIsLive w provider).2 := by
  rw [providerIsLive]
  split
  · exact (absorb_moves w s _).andThen (.single (.inquired _ (.liveAsked _ _ _) rfl rfl))
  · exact .refl s

lemma select_moves : Moves w [.noted, .inquired] s (s.select w).2 := by
  rw [select]
  split
  · exact .refl s
  · dsimp only
    split <;> exact seekLive_moves w s

lemma idleSleep_moves : Moves w [.slept] s s.idleSleep :=
  .single (.slept s _)

lemma idle_moves : Moves w [.turned, .blanked, .slept] s s.idle :=
  (Moves.single (.turned s .idle)).andThen
    ((Moves.single (.blanked _)).andThen (idleSleep_moves w _))

lemma paceAfterPass_moves : Moves w [.relaxed, .slept] s s.paceAfterPass := by
  rw [paceAfterPass]
  split
  · exact (Moves.single (.relaxed s)).andThen (idleSleep_moves w _)
  · exact .refl s

lemma livePreempts_moves (p : Showing) :
    Moves w [.looked, .noted, .inquired] s (livePreempts w p s).2 := by
  have sought : Moves w [.looked, .noted, .inquired] s
      (seekLive w { s with lastLiveCheck := some s.clock }).2 :=
    (Moves.single (.looked s)).andThen (seekLive_moves w _)
  rw [livePreempts]
  split
  · exact .refl s
  split
  · exact .refl s
  dsimp only
  split
  · exact (sought.andThen (.single (.noted _ _))).mono (by decide)
  · exact sought
  · exact sought

lemma acknowledge_moves (p : Showing) (first : Bool) :
    Moves w [.succeeded, .acknowledged] s (s.acknowledge p first) := by
  rw [acknowledge]
  split
  · exact (Moves.single (.succeeded s p.screen.provider)).andThen (.single (.acknowledged _))
  · exact .refl s

lemma askCycle_moves (p : Showing) : Moves w [.noted, .inquired] s (s.askCycle w p).2 := by
  rw [askCycle]
  split
  · dsimp only
    split
    · exact (absorb_moves w s _).andThen (.single (.inquired _ (.cycleAsked _ _ _) rfl rfl))
    · exact .refl s
  · exact .refl s

lemma judge_moves (p : Showing) : Moves w [.noted, .inquired] s (s.judge w p).2 := by
  unfold judge
  dsimp only
  split <;> exact askCycle_moves w s p

lemma rest_moves (p : Showing) : Moves w [.maintained, .slept] s (s.rest w p) :=
  (Moves.single (.maintained s)).andThen (.single (.slept _ _))

end

end Scheduler

end Marquee
