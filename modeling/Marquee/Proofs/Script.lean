import Marquee.Proofs.Scheduler.Operation

/-! A scripted world: what the polls find, which screens are live and which cannot be drawn. -/

namespace Marquee

structure Script where
  polls : List (List Request) := []
  live : List Screen := []
  broken : List Screen := []

namespace Script

def world : World Script where
  answers script _ provider :=
    let live := script.live.filter fun screen => screen.provider = provider
    { capabilities := { livePriority := !live.isEmpty }
      livePriority := .ok true
      liveContent := .ok true
      liveModes := .ok (live.map Screen.mode) }
  draw script _ screen _ :=
    { reply := if script.broken.contains screen then .error (.display "gone") else .ok true
      cost := 0
      world := script }
  restartCycle script _ := script
  maintenance := none
  arrivals script _ := (script.polls.headD [], { script with polls := script.polls.tail })
  stopRequested _ _ := false
  patience := 0

def setup (script : Script) : Setup AlwaysHealthy Script where
  catalog :=
    { providers := ["scores", "clock"]
      screens := [⟨"scores_recent", "scores"⟩, ⟨"scores_live", "scores"⟩, ⟨"clock", "clock"⟩] }
  settings := { defaultDuration := 1 }
  gate _ := .mk
  outside := script

def play (script : Script) (ops : List (Operation Script)) : Scheduler AlwaysHealthy Script :=
  script.setup.scheduler.performAll world ops

end Script

end Marquee
