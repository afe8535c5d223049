import Marquee.OnDemand.Payload

namespace Marquee

structure Board where
  latest : Option Snapshot := none

namespace Board

def publish (_ : Board) (s : Snapshot) : Board :=
  ⟨some s⟩

def latestJson (b : Board) : Option String :=
  b.latest.map Snapshot.toJson

end Board

end Marquee
