import Marquee.Scheduler.Tick

namespace Marquee

inductive RunEnd
  | stopped
  /-- The clock cannot count as far as the run was to last, which did not begin. -/
  | deadlineOutOfRange
  | stalled
  deriving DecidableEq, Repr

namespace Scheduler

variable {γ σ : Type} [HealthGate γ]

def ticks (w : World σ) : Nat → Scheduler γ σ → RunEnd × Scheduler γ σ
  | 0, s => (if s.shouldStop w then .stopped else .stalled, s)
  | n + 1, s => if s.shouldStop w then (.stopped, s) else ticks w n (s.tick w).2

def run (w : World σ) (s : Scheduler γ σ) : RunEnd × Scheduler γ σ :=
  let done := ticks w w.patience s
  (done.1, done.2.note [.stopped done.2.counters.ticks])

def runFor (w : World σ) (span : Span) (s : Scheduler γ σ) : RunEnd × Scheduler γ σ :=
  match Instant.add? s.clock span with
  | none => (.deadlineOutOfRange, s)
  | some deadline =>
    let done := ticks w w.patience { s with deadline := some deadline }
    let s := { done.2 with deadline := none }
    (done.1, s.note [.ran span s.counters])

end Scheduler

end Marquee
