import Marquee.Notice

/-! Repair of single settings: a value that cannot be used is replaced or moved to the nearest
limit, with a notice. -/

namespace Marquee.Settings

/-- Rates below one frame in seven days are raised to it. -/
def slowestRate : Float := 1 / Span.longestSeconds

def atMost (value limit : Float) (name : String) : Noted Float :=
  if limit < value then ⟨limit, [.settingLowered name value limit]⟩ else pure value

def positiveOr (value fallback : Float) (name : String) : Noted Float :=
  if value.isFinite ∧ 0 < value then atMost value Span.longestSeconds name
  else ⟨fallback, [.settingReplaced name value fallback]⟩

def nonNegativeOr (value fallback : Float) (name : String) : Noted Float :=
  if ¬ value.isFinite ∨ value < 0 then ⟨fallback, [.settingReplaced name value fallback]⟩
  else pure value

def rateOr (value fallback : Float) (name : String) : Noted Float :=
  if ¬ value.isFinite ∨ value ≤ 0 then ⟨fallback, [.settingReplaced name value fallback]⟩
  else if value < slowestRate then ⟨slowestRate, [.settingRaised name value slowestRate]⟩
  else pure value

def ceilingOrNone (value : Float) (name : String) : Noted Float :=
  if value == 0 then pure 0
  else if ¬ value.isFinite ∨ value < 0 then ⟨0, [.ceilingDropped name value]⟩
  else rateOr value 0 name

end Marquee.Settings
