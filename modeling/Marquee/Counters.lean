namespace Marquee

structure Counters where
  ticks : Nat := 0
  activations : Nat := 0
  rotationAdvances : Nat := 0
  preemptions : Nat := 0
  displayFailures : Nat := 0
  deriving DecidableEq, Repr

def Counters.text (c : Counters) : String :=
  "SchedulerStats \x7b ticks: " ++ toString c.ticks ++
    ", activations: " ++ toString c.activations ++
    ", rotation_advances: " ++ toString c.rotationAdvances ++
    ", preemptions: " ++ toString c.preemptions ++
    ", display_failures: " ++ toString c.displayFailures ++ " \x7d"

end Marquee
