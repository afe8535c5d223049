namespace Marquee

abbrev ProviderId := String
abbrev ModeId := String

structure Screen where
  mode : ModeId
  provider : ProviderId
  deriving DecidableEq, Repr

def Screen.text (s : Screen) : String :=
  s.provider ++ "/" ++ s.mode

inductive Source
  | onDemand
  | live
  | rotation (index : Nat)
  deriving DecidableEq, Repr

def Source.text : Source → String
  | .onDemand => "on-demand"
  | .live => "live"
  | .rotation _ => "rotation"

def Source.isRotation : Source → Bool
  | .rotation _ => true
  | _ => false

structure Selection where
  screen : Screen
  source : Source
  deriving DecidableEq, Repr

end Marquee
