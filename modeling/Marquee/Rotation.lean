import Marquee.Notice

/-!
Rotation goes through the screens in order. One pass runs from the first to the last; providers that
are set aside during a pass are passed over until it ends.
-/

namespace Marquee

structure Rotation where
  screens : List Screen
  index : Nat := 0
  onDisplay : Option Screen := none
  skipped : List ProviderId := []
  advances : Nat := 0
  passes : Nat := 0
  deriving DecidableEq, Repr

namespace Rotation

def current? (r : Rotation) : Option Screen :=
  r.screens[r.index]?

def isSkipped (r : Rotation) (provider : ProviderId) : Bool :=
  r.skipped.contains provider

def skip (r : Rotation) (provider : ProviderId) : Rotation :=
  if r.isSkipped provider then r else { r with skipped := r.skipped ++ [provider] }

def step (r : Rotation) : Rotation :=
  let next := (r.index + 1) % r.screens.length
  if next = 0 then { r with index := 0, passes := r.passes + 1, skipped := [] }
  else { r with index := next }

def rests (r : Rotation) : Bool :=
  match r.current? with
  | some s => !r.isSkipped s.provider
  | none => true

def seek : Nat → Rotation → Rotation
  | 0, r => r
  | count + 1, r => if r.step.rests then r.step else seek count r.step

def advance (r : Rotation) : Rotation :=
  if r.screens.isEmpty then r
  else
    let landed := seek r.screens.length r
    { landed with advances := landed.advances + 1 }

def advancePastProvider (r : Rotation) : Rotation :=
  match r.current? with
  | some s => (r.skip s.provider).advance
  | none => r.advance

/-- Back to an index taken down before; one out of range is reported and changes nothing. -/
def restore (r : Rotation) (index : Nat) : Noted (Bool × Rotation) :=
  if index < r.screens.length then pure (true, { r with index })
  else ⟨(false, r), [.resumeOutOfRange index r.screens.length r.index]⟩

end Rotation

end Marquee
