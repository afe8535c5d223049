import Marquee.OnDemand.Request
import Marquee.Provider
import Marquee.Time

/-!
The world around a scheduler: providers, background work, and whoever sends commands. Its state is
of any type; the scheduler touches it only through the functions given here.
-/

namespace Marquee

structure DrawReply (σ : Type) where
  reply : Except ProviderError Bool
  cost : Span
  world : σ

structure World (σ : Type) where
  answers : σ → Instant → ProviderId → Answers
  draw : σ → Instant → Screen → Bool → DrawReply σ
  restartCycle : σ → ProviderId → σ
  /-- Background work between frames, with the time it takes. -/
  maintenance : Option (σ → Instant → Span × σ)
  arrivals : σ → Instant → List Request × σ
  stopRequested : σ → Instant → Bool
  /-- How many frames of a showing or ticks of a run may pass in vain before it is given up. -/
  patience : Nat

end Marquee
