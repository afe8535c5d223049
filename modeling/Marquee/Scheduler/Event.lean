import Marquee.Airtime
import Marquee.OnDemand.Request
import Marquee.OnDemand.Session
import Marquee.Rotation

namespace Marquee

structure Frame where
  screen : Screen
  source : Source
  forceClear : Bool
  time : Instant
  session : Session
  drawing : Drawing

inductive Ending
  | completed
  | cycleComplete
  | preempted
  | noContent
  | failed (error : ProviderError)
  | interrupted
  /-- Time did not move for longer than was waited. -/
  | stalled
  deriving DecidableEq, Repr

inductive Event
  | notice (n : Notice)
  | opened (selection : Selection) (airtime : Airtime) (time : Instant)
  | cycleRestarted (provider : ProviderId) (time : Instant)
  | drawn (frame : Frame)
  | cycleAsked (provider : ProviderId) (complete : Bool) (time : Instant)
  | liveSought (found : Option Screen) (time : Instant)
  | liveAsked (provider : ProviderId) (live : Bool) (time : Instant)
  | maintained (time : Instant)
  | slept (time : Instant) (span : Span)
  | published (snapshot : Snapshot) (time : Instant)
  | taken (request : Request) (time : Instant)
  | sessionBegun (session : Session) (rotation : Rotation) (time : Instant)
  | sessionOver (session : Session) (rotation : Rotation) (time : Instant)
  | rotated (rotation : Rotation)
  | succeeded (provider : ProviderId) (time : Instant)
  | failed (provider : ProviderId) (error : ProviderError) (time : Instant)
  | closed (ending : Ending) (time : Instant)

abbrev Journal := List Event

namespace Journal

def notices (j : Journal) : List Notice :=
  j.reverse.filterMap fun
    | .notice n => some n
    | _ => none

def frames (j : Journal) : List Frame :=
  j.reverse.filterMap fun
    | .drawn f => some f
    | _ => none

end Journal

end Marquee
