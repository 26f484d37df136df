import Mathlib.Algebra.GroupWithZero.Nat
import TwoWire.Delay

/-! How much of a pause is over.

The slices of a pause add up to its length. Going through them uses each up once, however often it
suspends the caller, so what was asked of the delay and what is left always make up the whole. In
the same way every poll that is suspended takes one off those that the schedule has ahead.
-/

namespace TwoWire

namespace Schedule

/-- How many polls find one of so many slices unfinished, given how many came before them. -/
def polls (schedule : Schedule) (before count : Nat) : Nat :=
  ((List.range' before count).map schedule.lag).sum

variable {schedule : Schedule} {before count : Nat}

theorem polls_succ
    : schedule.polls before (count + 1)
      = schedule.lag before + schedule.polls (before + 1) count := by
  simp [polls, List.range'_succ]

theorem polls_add (more : Nat)
    : schedule.polls before (count + more)
      = schedule.polls before count + schedule.polls (before + count) more := by
  simp [polls, ← List.range'_append_1]

theorem polls_mono {more : Nat} (fewer : count ≤ more)
    : schedule.polls before count ≤ schedule.polls before more := by
  obtain ⟨rest, rfl⟩ := Nat.exists_eq_add_of_le fewer
  rw [polls_add]
  exact Nat.le_add_right _ _

end Schedule

namespace Delay

variable {schedule : Schedule} {delay : Delay} {count : Nat}

/-- How many polls find a slice unfinished until so many more slices are over. -/
def ahead (delay : Delay) (count : Nat) : Nat :=
  delay.left + delay.schedule.polls delay.calls count

@[simp] theorem ahead_new : (new schedule).ahead count = schedule.polls 0 count :=
  Nat.zero_add _

theorem ahead_charge (ready : delay.left = 0) (nanoseconds : Nat)
    : (delay.charge nanoseconds).ahead count = delay.ahead (count + 1) := by
  rw [ahead, ahead, ready, Nat.zero_add, Schedule.polls_succ]
  rfl

theorem ahead_mono {more : Nat} (fewer : count ≤ more) : delay.ahead count ≤ delay.ahead more :=
  Nat.add_le_add_left (Schedule.polls_mono fewer) _

/-- What going through slices does: it uses all of them up, or it is suspended for a poll when some
were used and others are left.
-/
inductive Spends (delay : Delay) (slices : List Nat) : Poll (List Nat) Unit × Delay → Prop
  | ended {spent} (elapsed : spent.elapsed = delay.elapsed + slices.sum)
    (calls : spent.calls = delay.calls + slices.length) (ready : spent.left = 0)
    (later : ∀ more, spent.ahead more = delay.ahead (slices.length + more))
    : Spends delay slices (.ready (), spent)
  | suspended {rest spent} (elapsed : spent.elapsed + rest.sum = delay.elapsed + slices.sum)
    (calls : spent.calls + rest.length = delay.calls + slices.length)
    (later
      : ∀ more, spent.ahead (rest.length + more) + 1 = delay.ahead (slices.length + more))
    : Spends delay slices (.pending rest, spent)

/-- A slice that was begun is spent before those after it. -/
theorem Spends.afterCharge {slice : Nat} {rest : List Nat} {outcome : Poll (List Nat) Unit × Delay}
    (ready : delay.left = 0) (spends : (delay.charge slice).Spends rest outcome)
    : delay.Spends (slice :: rest) outcome := by
  have further (more : Nat)
      : (delay.charge slice).ahead (rest.length + more)
        = delay.ahead ((slice :: rest).length + more) := by
    rw [ahead_charge ready, List.length_cons, Nat.add_right_comm]
  cases spends with
  | ended elapsed calls finished later =>
      refine .ended ?_ ?_ finished fun more => (later more).trans (further more)
      · simp only [elapsed, charge, List.sum_cons]
        omega
      · simp only [calls, charge, List.length_cons]
        omega
  | suspended elapsed calls later =>
      refine .suspended ?_ ?_ fun more => (later more).trans (further more)
      · simp only [elapsed, charge, List.sum_cons]
        omega
      · simp only [calls, charge, List.length_cons]
        omega

/-- Slices are spent one by one, by induction over them. -/
theorem spends_pause (slices : List Nat) (delay : Delay)
    : delay.Spends slices (pause slices delay) := by
  have unfinished (slices : List Nat) (delay : Delay) (left : 0 < delay.left)
      : delay.Spends slices (.pending slices, { delay with left := delay.left - 1 }) := by
    refine .suspended rfl rfl fun more => ?_
    simp only [ahead]
    omega
  induction slices generalizing delay with
  | nil =>
      unfold pause
      split
      · rename_i left
        exact unfinished _ _ left
      · have ready : delay.left = 0 := by omega
        exact .ended rfl rfl ready fun more => by simp
  | cons slice rest ih =>
      unfold pause
      split
      · rename_i left
        exact unfinished _ _ left
      · have ready : delay.left = 0 := by omega
        exact .afterCharge ready (ih (delay.charge slice))

/-- The slices of a pause add up to the pause, since the last one takes what the full ones leave. -/
theorem sum_slices (unit largest amount : Nat)
    : (slices unit largest amount).sum = amount * unit := by
  have full : (amount - 1) / largest * largest ≤ amount :=
    Nat.le_trans (Nat.div_mul_le_self (amount - 1) largest) (Nat.sub_le amount 1)
  simp only [slices, List.sum_append_nat, List.sum_replicate_nat, List.sum_singleton]
  rw [← Nat.mul_assoc, ← Nat.add_mul, Nat.add_sub_cancel' full]

end Delay

end TwoWire
