import Marquee.Counters
import Marquee.Number.Text
import Marquee.OnDemand.Refusal
import Marquee.Provider
import Marquee.Time.Text

/-! Notices: what is reported to whoever operates the display, and how it is worded. -/

namespace Marquee

inductive Level
  | warning
  | information
  deriving DecidableEq, Repr

inductive LiveQuestion
  | priority
  | content
  | modes
  deriving DecidableEq, Repr

def LiveQuestion.text : LiveQuestion → String
  | .priority => "priority"
  | .content => "content"
  | .modes => "mode"

inductive SessionTerm
  | pinned
  | bounded (seconds : Float)
  | untilStopped

def SessionTerm.text : SessionTerm → String
  | .pinned => "pinned"
  | .bounded seconds => Number.tenthsText seconds ++ "s"
  | .untilStopped => "until stopped"

inductive Notice
  | settingReplaced (name : String) (value used : Float)
  | settingLowered (name : String) (value limit : Float)
  | settingRaised (name : String) (value limit : Float)
  | ceilingDropped (name : String) (value : Float)
  | failureThresholdRaised
  | capIgnored (cap : Float) (provider : ProviderId)
  | cycleLengthUnknown (provider : ProviderId) (error : ProviderError)
  | cycleStateUnknown (provider : ProviderId) (error : ProviderError)
  | providerRepeated (provider : ProviderId)
  | modeTaken (mode : ModeId) (provider : ProviderId)
  | liveUnknown (question : LiveQuestion) (provider : ProviderId) (error : ProviderError)
  | providerSuspended (provider : ProviderId) (failures : Nat) (cooldown : Span)
  | providerRecovered (provider : ProviderId)
  | durationOutOfRange (seconds : Float)
  | resumeOutOfRange (index count current : Nat)
  | ready (screens providers : Nat)
  | showing (screen : Screen) (source : Source) (seconds : Float)
  | preempted (live shown : Screen)
  | sessionStarted (screen : Screen) (term : SessionTerm)
  | sessionEnded (event : String)
  | sessionBroken (error : ProviderError)
  | refused (request : String) (refusal : Refusal)
  | screenFailed (screen : Screen) (error : ProviderError)
  | stopped (ticks : Nat)
  | ran (span : Span) (counters : Counters)

namespace Notice

def level : Notice → Level
  | providerRecovered _ | ready _ _ | showing _ _ _ | preempted _ _ | sessionStarted _ _
  | sessionEnded _ | stopped _ | ran _ _ => .information
  | _ => .warning

def text : Notice → String
  | settingReplaced name value used =>
    "Invalid " ++ name ++ " " ++ Number.plainText value ++ "; using " ++ Number.plainText used
  | settingLowered name value limit =>
    name ++ " " ++ Number.plainText value ++ " exceeds " ++ Number.plainText limit ++ "; clamping"
  | settingRaised name value limit =>
    name ++ " " ++ Number.plainText value ++ " is below " ++ Number.plainText limit ++ "; clamping"
  | ceilingDropped name value =>
    "Invalid " ++ name ++ " " ++ Number.plainText value ++ "; disabling the ceiling"
  | failureThresholdRaised => "health.failure_threshold must be at least 1; using 1"
  | capIgnored cap provider =>
    "Ignoring invalid dynamic duration cap " ++ Number.plainText cap ++ " from '" ++ provider ++ "'"
  | cycleLengthUnknown provider error =>
    "Cycle duration query failed for '" ++ provider ++ "': " ++ error.message
  | cycleStateUnknown provider error =>
    "Cycle completion query failed for '" ++ provider ++ "': " ++ error.message
  | providerRepeated provider => "Provider '" ++ provider ++ "' already registered; ignoring"
  | modeTaken mode provider =>
    "Mode '" ++ mode ++ "' of provider '" ++ provider ++ "' already registered; ignoring"
  | liveUnknown question provider error =>
    "Live " ++ question.text ++ " query failed for '" ++ provider ++ "': " ++ error.message
  | providerSuspended provider failures cooldown =>
    "Provider '" ++ provider ++ "' failed " ++ toString failures ++
      " times in a row; skipping for " ++ cooldown.text
  | providerRecovered provider => "Provider '" ++ provider ++ "' recovered; closing circuit"
  | durationOutOfRange seconds =>
    "On-demand duration " ++ Number.plainText seconds ++ "s is out of range; running unbounded"
  | resumeOutOfRange index count current =>
    "Cannot resume rotation at index " ++ toString index ++ " (" ++ toString count ++
      " units); staying at " ++ toString current
  | ready screens providers =>
    "Scheduler ready: " ++ toString screens ++ " unit(s) from " ++ toString providers ++
      " provider(s)"
  | showing screen source seconds =>
    "Showing " ++ screen.text ++ " (" ++ source.text ++ ") for " ++ Number.tenthsText seconds ++ "s"
  | preempted live shown => "Live content from " ++ live.text ++ " preempts " ++ shown.text
  | sessionStarted screen term =>
    "On-demand session for " ++ screen.text ++ " (" ++ term.text ++ ")"
  | sessionEnded event => "On-demand session " ++ event
  | sessionBroken error => "On-demand session ended: " ++ error.message
  | refused request refusal =>
    "Rejected on-demand request '" ++ request ++ "' (" ++ refusal.code ++ "): " ++ refusal.message
  | screenFailed screen error => screen.text ++ " failed: " ++ error.message
  | stopped ticks => "Scheduler stopped after " ++ toString ticks ++ " tick(s)"
  | ran span counters => "Scheduler ran " ++ span.text ++ ": " ++ counters.text

end Notice

structure Noted (α : Type) where
  value : α
  notices : List Notice := []

namespace Noted

variable {α β : Type}

def bind (a : Noted α) (f : α → Noted β) : Noted β :=
  let b := f a.value
  ⟨b.value, a.notices ++ b.notices⟩

instance : Monad Noted where
  pure value := ⟨value, []⟩
  bind := Noted.bind

def remark (n : Notice) : Noted Unit :=
  ⟨(), [n]⟩

@[simp] theorem value_pure (a : α) : (pure a : Noted α).value = a := rfl

@[simp] theorem notices_pure (a : α) : (pure a : Noted α).notices = [] := rfl

@[simp] theorem value_bind (a : Noted α) (f : α → Noted β) :
    (a >>= f).value = (f a.value).value := rfl

@[simp] theorem notices_bind (a : Noted α) (f : α → Noted β) :
    (a >>= f).notices = a.notices ++ (f a.value).notices := rfl

end Noted

end Marquee
