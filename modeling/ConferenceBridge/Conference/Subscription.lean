import ConferenceBridge.Conference.Scene

namespace ConferenceBridge

/-! A subscriber to the changes of a conference. It may fall behind by a bounded number of
changes; of those it did not receive in time it only learns how many there were. -/

structure Subscription where
  /-- How many changes had been announced when the subscriber last looked. -/
  position : Nat
  deriving DecidableEq, Repr

structure Delivery where
  missed : Nat
  changes : List Change
  deriving DecidableEq, Repr

namespace Subscription

def capacityFrom (wanted : Nat) : Nat → Nat → Nat
  | 0, power => power
  | steps + 1, power => if wanted ≤ power then power else capacityFrom wanted steps (2 * power)

def capacity (wanted : UInt64) : Nat :=
  capacityFrom wanted.toNat 64 1

def start (changes : List Change) : Subscription :=
  ⟨changes.length⟩

def receive (subscription : Subscription) (capacity : Nat) (changes : List Change) :
    Delivery × Subscription :=
  let pending := changes.drop subscription.position
  let missed := pending.length - capacity
  (⟨missed, pending.drop missed⟩, start changes)

theorem missed_eq_zero_iff {subscription : Subscription} {capacity : Nat}
    {changes : List Change} :
    (subscription.receive capacity changes).1.missed = 0 ↔
      changes.length ≤ subscription.position + capacity := by
  simp only [receive, List.length_drop]
  omega

end Subscription

end ConferenceBridge
