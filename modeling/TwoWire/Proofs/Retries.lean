import TwoWire.Proofs.Pauses
import TwoWire.Retry

/-! What a bounded retry does, whatever is attempted.

It makes attempts until one succeeds or the trials are used up, and it pauses once between two of
them. Every attempt but the last was a failure, so their number alone tells how far a retry got and
how long it paused.
-/

namespace TwoWire.Retry

variable {σ : Type} {interval trials : Nat} {attempt : σ → Bool × σ} {state : σ}

/-- What a number of attempts answer, made one after the other. -/
def answers (attempt : σ → Bool × σ) : (count : Nat) → σ → List Bool
  | 0, _ => []
  | count + 1, state => (attempt state).1 :: answers attempt count (attempt state).2

/-- What a number of attempts lead to. -/
def after (attempt : σ → Bool × σ) : (count : Nat) → σ → σ
  | 0, state => state
  | count + 1, state => after attempt count (attempt state).2

@[simp] theorem length_answers (attempt : σ → Bool × σ) (count : Nat) (state : σ)
    : (answers attempt count state).length = count := by
  induction count generalizing state with
  | zero => rfl
  | succ count ih => simp [answers, ih]

theorem answers_add (attempt : σ → Bool × σ) (first second : Nat) (state : σ)
    : answers attempt (first + second) state
      = answers attempt first state ++ answers attempt second (after attempt first state) := by
  induction first generalizing state with
  | zero => simp [answers, after]
  | succ first ih => simp [Nat.succ_add, answers, after, ih]

theorem after_add (attempt : σ → Bool × σ) (first second : Nat) (state : σ)
    : after attempt (first + second) state
      = after attempt second (after attempt first state) := by
  induction first generalizing state with
  | zero => simp [after]
  | succ first ih => simp [Nat.succ_add, after, ih]

section Views

variable {τ : Type} {view : σ → τ} {other : τ → Bool × τ}

/-- Attempts can be told from a view of the state if the view tells what each of them does. -/
theorem answers_map (same : ∀ state, other (view state) = (attempt state).map id view)
    (count : Nat) (state : σ)
    : answers other count (view state) = answers attempt count state := by
  induction count generalizing state with
  | zero => rfl
  | succ count ih => simp [answers, same, ih]

theorem after_map (same : ∀ state, other (view state) = (attempt state).map id view)
    (count : Nat) (state : σ)
    : after other count (view state) = view (after attempt count state) := by
  induction count generalizing state with
  | zero => rfl
  | succ count ih => simp [after, same, ih]

end Views

/-- What a retry with some trials left makes of them. The calls and the time are those that the
delay will have been asked for when the pause that comes first is over; `ahead` tells how many
polls find a slice unfinished until then and in so many slices more.
-/
inductive Makes (interval : Nat) (attempt : σ → Bool × σ) (trials : Nat) (state : σ)
    (ahead : Nat → Nat) (calls elapsed : Nat)
    : Poll Paused Bool × σ × Delay → Prop
  | succeeded {count spent} (left : count < trials)
    (answered : answers attempt (count + 1) state = List.replicate count false ++ [true])
    (slices : spent.calls = calls + count * (Delay.milliseconds interval).length)
    (time : spent.elapsed = elapsed + count * (interval * 1000000))
    (prompt : ahead (count * (Delay.milliseconds interval).length) = 0)
    : Makes interval attempt trials state ahead calls elapsed
        (.ready true, after attempt (count + 1) state, spent)
  | failed {spent} (answered : answers attempt trials state = List.replicate trials false)
    (slices : spent.calls = calls + (trials - 1) * (Delay.milliseconds interval).length)
    (time : spent.elapsed = elapsed + (trials - 1) * (interval * 1000000))
    (prompt : ahead ((trials - 1) * (Delay.milliseconds interval).length) = 0)
    : Makes interval attempt trials state ahead calls elapsed
        (.ready false, after attempt trials state, spent)
  | suspended {count paused spent} (split : count + paused.trials = trials)
    (some : 0 < paused.trials)
    (answered : answers attempt count state = List.replicate count false)
    (slices
      : spent.calls + paused.slices.length
        = calls + count * (Delay.milliseconds interval).length)
    (time : spent.elapsed + paused.slices.sum = elapsed + count * (interval * 1000000))
    (later
      : ∀ more,
          spent.ahead (paused.slices.length + more) + 1
            = ahead (count * (Delay.milliseconds interval).length + more))
    : Makes interval attempt trials state ahead calls elapsed
        (.pending paused, after attempt count state, spent)

/-- A failure and the pause after it come before what the other trials make. -/
theorem Makes.afterFailure {ahead : Nat → Nat} {calls elapsed : Nat}
    {outcome : Poll Paused Bool × σ × Delay} (failed : (attempt state).1 = false)
    (some : 0 < trials)
    (rest
      : Makes interval attempt trials (attempt state).2
          (fun more => ahead ((Delay.milliseconds interval).length + more))
          (calls + (Delay.milliseconds interval).length) (elapsed + interval * 1000000) outcome)
    : Makes interval attempt (trials + 1) state ahead calls elapsed outcome := by
  have once (count : Nat)
      : (count + 1) * (Delay.milliseconds interval).length
        = (Delay.milliseconds interval).length
          + count * (Delay.milliseconds interval).length := by
    rw [Nat.succ_mul, Nat.add_comm]
  have longer (count : Nat)
      : (count + 1) * (interval * 1000000)
        = interval * 1000000 + count * (interval * 1000000) := by
    rw [Nat.succ_mul, Nat.add_comm]
  cases rest with
  | @succeeded count _ left answered slices time prompt =>
      refine .succeeded (Nat.succ_lt_succ left) ?_ ?_ ?_ (by rw [once, prompt])
      · rw [answers, answered, failed]
        rfl
      · rw [slices, once, Nat.add_assoc]
      · rw [time, longer, Nat.add_assoc]
  | failed answered slices time prompt =>
      have steps : trials + 1 - 1 = trials - 1 + 1 := by omega
      refine .failed ?_ ?_ ?_ (by rw [steps, once, prompt])
      · rw [answers, answered, failed]
        rfl
      · rw [slices, steps, once, Nat.add_assoc]
      · rw [time, steps, longer, Nat.add_assoc]
  | @suspended count paused _ split left answered slices time later =>
      have split : count + 1 + paused.trials = trials + 1 := by omega
      refine .suspended split left ?_ ?_ ?_ fun more => by rw [later, once, Nat.add_assoc]
      · rw [answers, answered, failed]
        rfl
      · rw [slices, once, Nat.add_assoc]
      · rw [time, longer, Nat.add_assoc]

/-- A retry makes its attempts, by induction over the trials: each is the first of the rest. -/
theorem makes_run (interval : Nat) (attempt : σ → Bool × σ) (trials : Nat) (state : σ)
    (delay : Delay) (ready : delay.left = 0)
    : Makes interval attempt trials state delay.ahead delay.calls delay.elapsed
        (run interval attempt trials state delay) := by
  have now : delay.ahead 0 = 0 := ready
  induction trials generalizing state delay with
  | zero => exact .failed rfl (by simp) (by simp) (by simpa using now)
  | succ trials ih =>
      unfold run
      dsimp only
      cases answered : (attempt state).1 with
      | true =>
          have once : answers attempt (0 + 1) state = List.replicate 0 false ++ [true] := by
            simp [answers, answered]
          exact .succeeded (Nat.succ_pos trials) once (by simp) (by simp) (by simpa using now)
      | false =>
          have once : answers attempt 1 state = List.replicate 1 false := by
            simp [answers, answered]
          simp only [Bool.false_eq_true, if_false]
          by_cases last : trials = 0
          · subst last
            simp only [if_true]
            exact .failed once (by simp) (by simp) (by simpa using now)
          · simp only [last, if_false]
            have length : (Delay.milliseconds interval).sum = interval * 1000000 :=
              Delay.sum_slices 1000000 4294 interval
            have spends := delay.spends_pause (Delay.milliseconds interval)
            generalize delay.pause (Delay.milliseconds interval) = progress at spends ⊢
            cases spends with
            | @ended spent elapsed calls finished later =>
                refine Makes.afterFailure answered (Nat.pos_of_ne_zero last) ?_
                rw [← calls, ← length, ← elapsed, ← funext later]
                exact ih (attempt state).2 spent finished finished
            | @suspended rest spent elapsed calls later =>
                have split : 1 + (Paused.mk trials rest).trials = trials + 1 :=
                  Nat.add_comm 1 trials
                refine .suspended split (Nat.pos_of_ne_zero last) once ?_ ?_ (by simpa using later)
                · rw [Nat.one_mul]
                  exact calls
                · rw [Nat.one_mul, ← length]
                  exact elapsed

/-- A suspended retry goes on with the slices of its pause and then with its trials. -/
theorem makes_resume (interval : Nat) (attempt : σ → Bool × σ) {paused : Paused}
    (some : 0 < paused.trials) (state : σ) (delay : Delay)
    : Makes interval attempt paused.trials state
        (fun more => delay.ahead (paused.slices.length + more))
        (delay.calls + paused.slices.length) (delay.elapsed + paused.slices.sum)
        (resume interval attempt paused state delay) := by
  unfold resume
  have spends := delay.spends_pause paused.slices
  generalize delay.pause paused.slices = progress at spends ⊢
  cases spends with
  | @ended spent elapsed calls finished later =>
      rw [← calls, ← elapsed, ← funext later]
      exact makes_run interval attempt paused.trials state spent finished
  | @suspended rest spent elapsed calls later =>
      have split : 0 + (Paused.mk paused.trials rest).trials = paused.trials := Nat.zero_add _
      exact .suspended split some rfl (by simpa using calls) (by simpa using elapsed)
        (by simpa using later)

end TwoWire.Retry
