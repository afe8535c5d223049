import Marquee.Notice

namespace Marquee

structure Catalog where
  providers : List ProviderId := []
  screens : List Screen := []
  deriving DecidableEq, Repr

namespace Catalog

def hasProvider (c : Catalog) (provider : ProviderId) : Bool :=
  c.providers.contains provider

def screen? (c : Catalog) (mode : ModeId) : Option Screen :=
  c.screens.find? fun s => s.mode = mode

def firstScreenOf? (c : Catalog) (provider : ProviderId) : Option Screen :=
  c.screens.find? fun s => s.provider = provider

/-- A mode that is taken already is left to its owner. -/
def declare (provider : ProviderId) (screens : List Screen) (mode : ModeId) : Noted (List Screen) :=
  if (screens.find? fun s => s.mode = mode).isSome then ⟨screens, [.modeTaken mode provider]⟩
  else pure (screens ++ [⟨mode, provider⟩])

def declareAll (provider : ProviderId) (screens : List Screen) : List ModeId → Noted (List Screen)
  | [] => pure screens
  | mode :: modes => do
    let screens ← declare provider screens mode
    declareAll provider screens modes

def register (c : Catalog) (provider : ProviderId) (modes : List ModeId) : Noted (Catalog × Nat) :=
  if c.hasProvider provider then ⟨(c, 0), [.providerRepeated provider]⟩
  else do
    let screens ← declareAll provider c.screens modes
    return (⟨c.providers ++ [provider], screens⟩, screens.length - c.screens.length)

def rotationOrder (c : Catalog) : List ProviderId :=
  c.screens.foldl (fun ids s => if ids.contains s.provider then ids else ids ++ [s.provider]) []

end Catalog

end Marquee
