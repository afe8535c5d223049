import Marquee.Screen

namespace Marquee

inductive ProviderError
  | display (reason : String)
  | query (reason : String)
  | unavailable (reason : String)
  deriving DecidableEq, Repr

def ProviderError.message : ProviderError → String
  | .display reason => "Display failed: " ++ reason
  | .query reason => "Capability query failed: " ++ reason
  | .unavailable reason => "Provider unavailable: " ++ reason

structure Capabilities where
  highRate : Bool := false
  dynamicDuration : Bool := false
  livePriority : Bool := false
  deriving DecidableEq, Repr

structure Answers where
  capabilities : Capabilities := {}
  displaySeconds : ModeId → Option Float := fun _ => none
  isDynamic : Bool := capabilities.dynamicDuration
  dynamicCap : Option Float := none
  cycleSeconds : ModeId → Except ProviderError (Option Float) := fun _ => .ok none
  cycleComplete : Except ProviderError Bool := .ok true
  livePriority : Except ProviderError Bool := .ok false
  liveContent : Except ProviderError Bool := .ok false
  liveModes : Except ProviderError (List ModeId) := .ok []

instance : Inhabited Answers := ⟨{}⟩

inductive Drawing
  | shown
  | nothing
  | failed (error : ProviderError)
  deriving DecidableEq, Repr

def Drawing.ofReply : Except ProviderError Bool → Drawing
  | .ok true => .shown
  | .ok false => .nothing
  | .error e => .failed e

end Marquee
