import TwoWire.Delay

/-! Trying again a bounded number of times, with a pause between two attempts.

There is no pause before the first attempt, after the last one or after a success.
-/

namespace TwoWire.Retry

/-- A retry that is suspended in a pause. -/
structure Paused where
  trials : Nat
  /-- The slices of the pause that have not begun. -/
  slices : List Nat
deriving DecidableEq, Repr

/-- Attempt something on a state until it succeeds or the trials are used up; the answer says
whether it succeeded.
-/
def run {σ : Type} (interval : Nat) (attempt : σ → Bool × σ)
    : (trials : Nat) → σ → Delay → Poll Paused Bool × σ × Delay
  | 0, state, delay => (.ready false, state, delay)
  | trials + 1, state, delay =>
    let (succeeded, state) := attempt state
    if succeeded then
      (.ready true, state, delay)
    else if trials = 0 then
      (.ready false, state, delay)
    else
      match delay.pause (Delay.milliseconds interval) with
      | (.ready (), delay) => run interval attempt trials state delay
      | (.pending slices, delay) => (.pending ⟨trials, slices⟩, state, delay)

/-- Go on with a suspended retry: finish its pause and then make the next attempt. -/
def resume {σ : Type} (interval : Nat) (attempt : σ → Bool × σ) (paused : Paused) (state : σ)
    (delay : Delay)
    : Poll Paused Bool × σ × Delay :=
  match delay.pause paused.slices with
  | (.ready (), delay) => run interval attempt paused.trials state delay
  | (.pending slices, delay) => (.pending ⟨paused.trials, slices⟩, state, delay)

end TwoWire.Retry
