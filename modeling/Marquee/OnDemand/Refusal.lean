import Marquee.Screen

namespace Marquee

inductive Refusal
  | invalidAction (action : String)
  | missingTarget
  | unknownProvider (provider : ProviderId)
  | unknownMode (mode : ModeId)
  | modeProviderMismatch (mode : ModeId) (provider : ProviderId)
  | displayFailed (reason : String)
  | invalidPayload (reason : String)
  deriving DecidableEq, Repr

namespace Refusal

def code : Refusal → String
  | invalidAction _ => "invalid_action"
  | missingTarget => "missing_target"
  | unknownProvider _ => "unknown_provider"
  | unknownMode _ => "unknown_mode"
  | modeProviderMismatch _ _ => "mode_provider_mismatch"
  | displayFailed _ => "display_failed"
  | invalidPayload _ => "invalid_payload"

def message : Refusal → String
  | invalidAction action => "Unsupported action '" ++ action ++ "'"
  | missingTarget => "Start request names neither a mode nor a provider"
  | unknownProvider provider => "Unknown provider '" ++ provider ++ "'"
  | unknownMode mode => "Unknown mode '" ++ mode ++ "'"
  | modeProviderMismatch mode provider =>
    "Mode '" ++ mode ++ "' does not belong to provider '" ++ provider ++ "'"
  | displayFailed reason => "On-demand display failed: " ++ reason
  | invalidPayload reason => "Invalid payload: " ++ reason

end Refusal

end Marquee
