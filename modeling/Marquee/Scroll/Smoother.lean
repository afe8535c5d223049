import Marquee.Number.Scalar

namespace Marquee

open Number

def Smoother.longest : Nat := 64

structure Smoother (α : Type) where
  capacity : Nat
  slots : Vector α capacity
  next : Fin capacity
  size : Nat
  fits : size ≤ capacity
  sum : α

namespace Smoother

variable {α : Type} [Scalar α]

def empty (capacity : Nat) (positive : 0 < capacity) : Smoother α where
  capacity
  slots := Vector.replicate capacity (Scalar.ofNat 0)
  next := ⟨0, positive⟩
  size := 0
  fits := Nat.zero_le capacity
  sum := Scalar.ofNat 0

def new (capacity : Nat) : Smoother α :=
  empty (max 1 (min capacity longest)) (Nat.le_max_left 1 _)

def clear (s : Smoother α) : Smoother α :=
  empty s.capacity s.next.pos

def mean (s : Smoother α) : α :=
  if s.size = 0 then Scalar.ofNat 0 else s.sum / Scalar.ofNat s.size

def total : List α → α
  | [] => Scalar.ofNat 0
  | x :: xs => xs.foldl (· + ·) x

def makeRoom (s : Smoother α) : Smoother α :=
  if full : s.size = s.capacity then { s with sum := s.sum - s.slots[s.next] }
  else { s with size := s.size + 1, fits := Nat.lt_of_le_of_ne s.fits full }

def store (s : Smoother α) (sample : α) : Smoother α :=
  { s with
    slots := s.slots.set s.next sample
    sum := s.sum + sample
    next := ⟨(s.next + 1) % s.capacity, Nat.mod_lt _ s.next.pos⟩ }

/-- The sum is taken afresh whenever the ring begins again, so that errors do not pile up. -/
def settle (s : Smoother α) : Smoother α :=
  if s.next.val = 0 then { s with sum := total (s.slots.toList.take s.size) } else s

def push (s : Smoother α) (sample : α) : Smoother α :=
  if s.capacity = 1 then
    { s with slots := s.slots.set 0 sample s.next.pos, size := 1, fits := s.next.pos, sum := sample }
  else (s.makeRoom.store sample).settle

def smoothed (s : Smoother α) (sample : α) : α :=
  if s.capacity = 1 then sample else (s.push sample).mean

end Smoother

end Marquee
