import Marquee.Provider
import Marquee.Settings

namespace Marquee

structure Airtime where
  least : Float
  greatest : Float
  target : Float
  /-- Whether a finished cycle ends the showing early. -/
  dynamic : Bool

inductive ExitDecision
  | stay
  | cycleComplete
  | deadline
  deriving DecidableEq, Repr

namespace Airtime

def fixed (base : Float) : Airtime :=
  ⟨base, base, base, false⟩

def targetSpan (t : Airtime) : Span :=
  Span.ofSeconds t.target

def asksForCycle (t : Airtime) (elapsed grace : Span) : Bool :=
  !(t.target ≤ elapsed.seconds) && t.dynamic && t.least + grace.seconds ≤ elapsed.seconds

def exitDecision (t : Airtime) (elapsed grace : Span) (cycleComplete : Bool) : ExitDecision :=
  if t.target ≤ elapsed.seconds then .deadline
  else if t.asksForCycle elapsed grace && cycleComplete then .cycleComplete
  else .stay

end Airtime

structure AirtimeRule where
  cap : Float
  grace : Span

namespace AirtimeRule

def new (s : Settings) : Noted AirtimeRule := do
  let cap ← Settings.positiveOr s.dynamicCap 180 "dynamic_duration_cap"
  return { cap, grace := Span.ofSeconds s.gracePeriod }

def smaller (x y : Float) : Float :=
  if y < x then y else x

def larger (x y : Float) : Float :=
  if x < y then y else x

def isUsable (x : Float) : Bool :=
  x.isFinite && 0 < x

def usableCap (provider : ProviderId) : Option Float → Noted (Option Float)
  | none => pure none
  | some cap => if isUsable cap then pure (some cap) else ⟨none, [.capIgnored cap provider]⟩

def usableCycle (provider : ProviderId) : Except ProviderError (Option Float) →
    Noted (Option Float)
  | .ok cycle => pure (cycle.filter isUsable)
  | .error e => ⟨none, [.cycleLengthUnknown provider e]⟩

def dynamicTime (base cap : Float) (cycle : Option Float) : Airtime :=
  let target := match cycle with
    | some c => smaller c cap
    | none => cap
  ⟨base, larger cap base, larger target base, true⟩

def chosenCap (r : AirtimeRule) : Option Float → Float
  | some cap => smaller cap r.cap
  | none => r.cap

def resolve (r : AirtimeRule) (provider : ProviderId) (a : Answers) (mode : ModeId)
    (base fallback : Float) : Noted Airtime := do
  let fallback ← Settings.positiveOr fallback 15 "fallback duration"
  let base ← Settings.positiveOr base fallback ("duration for '" ++ mode ++ "'")
  if a.isDynamic then
    let cap ← usableCap provider a.dynamicCap
    let cycle ← usableCycle provider (a.cycleSeconds mode)
    return dynamicTime base (r.chosenCap cap) cycle
  else
    return Airtime.fixed base

def cycleComplete (provider : ProviderId) : Except ProviderError Bool → Noted Bool
  | .ok done => pure done
  | .error e => ⟨false, [.cycleStateUnknown provider e]⟩

end AirtimeRule

end Marquee
