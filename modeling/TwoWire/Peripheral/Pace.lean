/-! How fast a peripheral answers the questions about its status.

A wait is a run of equal questions that ends with the first yes. Each wait is refused a number of
times that may differ from wait to wait. Whether a sent address is acknowledged is a wait of its
own, which begins when the address is sent.
-/

namespace TwoWire

structure Pace where
  /-- How often the wait of a given number is refused before it is granted. -/
  lag : Nat → Nat
  /-- How many waits are over; one for an address counts from the time when it is sent. -/
  granted : Nat
  refused : Nat
  /-- How many more questions about the last address go unanswered. -/
  settling : Nat

namespace Pace

/-- A peripheral that answers after a given number of refusals, new at its first wait. -/
def ofLag (lag : Nat → Nat) : Pace where
  lag := lag
  granted := 0
  refused := 0
  settling := 0

/-- A peripheral that answers every question at once. -/
def instant : Pace :=
  ofLag fun _ => 0

/-- How many refusals of the current wait are still to come. -/
def pending (pace : Pace) : Nat :=
  pace.lag pace.granted - pace.refused

/-- Ask once: a wait is refused until its lag is used up and then granted. -/
def ready (pace : Pace) : Bool × Pace :=
  if pace.refused < pace.lag pace.granted then
    (false, { pace with refused := pace.refused + 1 })
  else
    (true, { pace with refused := 0, granted := pace.granted + 1 })

/-- Begin to settle on a new address, which takes as long as the next wait would have taken. -/
def settle (pace : Pace) : Pace :=
  { pace with settling := pace.lag pace.granted, granted := pace.granted + 1 }

/-- One question about the address passed while it had not settled. -/
def settleOnce (pace : Pace) : Pace :=
  { pace with settling := pace.settling - 1 }

/-- A wait with no refusals to come is granted, by the definition of what is to come. -/
theorem ready_of_pending_eq_zero {pace : Pace} (done : pace.pending = 0)
    : pace.ready.1 = true := by
  have : ¬ pace.refused < pace.lag pace.granted := by
    simp only [pending] at done
    omega
  simp [ready, this]

/-- A refusal uses up one of those to come, since the wait stays the same. -/
theorem pending_ready {pace : Pace} {left : Nat} (more : pace.pending = left + 1)
    : pace.ready.1 = false ∧ pace.ready.2.pending = left := by
  simp only [pending] at more
  have : pace.refused < pace.lag pace.granted := by omega
  simp only [ready, this, if_true, pending, true_and]
  omega

end Pace

end TwoWire
