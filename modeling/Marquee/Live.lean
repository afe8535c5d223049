import Marquee.Catalog

namespace Marquee.Live

def isLiveName (mode : ModeId) : Bool :=
  mode = "live" || mode.endsWith "_live"

def affirmed (question : LiveQuestion) (provider : ProviderId) :
    Except ProviderError Bool → Noted Bool
  | .ok answer => pure answer
  | .error e => ⟨false, [.liveUnknown question provider e]⟩

def isLive (provider : ProviderId) (a : Answers) : Noted Bool :=
  if a.capabilities.livePriority then do
    let claimed ← affirmed .priority provider a.livePriority
    if claimed then affirmed .content provider a.liveContent else pure false
  else pure false

def ownScreen? (c : Catalog) (provider : ProviderId) (mode : ModeId) : Option Screen :=
  (c.screen? mode).filter fun s => s.provider = provider

def chosen? (c : Catalog) (provider : ProviderId) (modes : List ModeId) : Option Screen :=
  (modes.findSome? (ownScreen? c provider)).or
    (c.screens.find? fun s => s.provider = provider && isLiveName s.mode)

def screenOf? (c : Catalog) (provider : ProviderId) (a : Answers) : Noted (Option Screen) := do
  let live ← isLive provider a
  if live then
    match a.liveModes with
    | .ok modes => pure (chosen? c provider modes)
    | .error e => ⟨none, [.liveUnknown .modes provider e]⟩
  else pure none

def search (c : Catalog) (answers : ProviderId → Answers) (barred : ProviderId → Bool) :
    List ProviderId → Noted (Option Screen)
  | [] => pure none
  | provider :: rest =>
    if barred provider || !c.hasProvider provider then search c answers barred rest
    else do
      let found ← screenOf? c provider (answers provider)
      match found with
      | some s => pure (some s)
      | none => search c answers barred rest

def find (c : Catalog) (answers : ProviderId → Answers) (barred : ProviderId → Bool) :
    Noted (Option Screen) :=
  search c answers barred c.rotationOrder

end Marquee.Live
