import Mathlib.Data.ENat.Lattice
import TwoWire.Proofs.Retries

/-! A bounded retry keeps to its budget, whatever is attempted and however long its pauses take.

The retry is written down once more as a loop that counts its trials up in 32 bits, pauses by any
timer and keeps a record of what it does. The count never overflows, and the timer decides only how
soon the record grows. With the pauses of a delay the loop is the retry itself.
-/

namespace TwoWire

-----------------------------------------------------------------------------------------
-- Timers
-----------------------------------------------------------------------------------------

/-- A source of pauses: what it does when a pause begins, and when a pause is polled again. -/
structure Timer (δ ρ : Type) where
  start : (milliseconds : Nat) → δ → Poll ρ Unit × δ
  poll : ρ → δ → Poll ρ Unit × δ

namespace Timer

variable {δ ρ : Type}

/-- A pause that is over after finitely many polls. -/
inductive Ends (timer : Timer δ ρ) : Poll ρ Unit × δ → Prop
  | ended (delay) : Ends timer (.ready (), delay)
  | polled {rest delay} (later : Ends timer (timer.poll rest delay))
    : Ends timer (.pending rest, delay)

/-- Every pause ends; how many polls that takes may differ from one to the next. -/
def Prompt (timer : Timer δ ρ) : Prop :=
  ∀ milliseconds delay, timer.Ends (timer.start milliseconds delay)

end Timer

/-- The pauses of a delay, which are made slice by slice. -/
def Delay.timer : Timer Delay (List Nat) where
  start milliseconds := Delay.pause (Delay.milliseconds milliseconds)
  poll := Delay.pause

/-- The pauses of a delay end, since each poll takes one off those that are ahead of it, by
induction on their number.
-/
theorem Delay.prompt_timer
    : Delay.timer.Prompt := by
  have ends (polls : Nat) (slices : List Nat) (delay : Delay)
      (ahead : delay.ahead slices.length = polls)
      : Delay.timer.Ends (delay.pause slices) := by
    induction polls using Nat.strong_induction_on generalizing slices delay with
    | h polls ih =>
        have spends := delay.spends_pause slices
        generalize delay.pause slices = progress at spends ⊢
        cases spends with
        | @ended spent => exact .ended spent
        | @suspended rest spent _ _ later =>
            have one : spent.ahead rest.length + 1 = delay.ahead slices.length := later 0
            exact .polled (ih _ (by omega) rest spent rfl)
  exact fun milliseconds delay => ends _ (Delay.milliseconds milliseconds) delay rfl

namespace Retry

variable {σ δ ρ : Type}

-----------------------------------------------------------------------------------------
-- The loop
-----------------------------------------------------------------------------------------

/-- One thing that a retry does. -/
inductive Deed where
  | attempt (succeeded : Bool)
  | pause (milliseconds : Nat)
deriving DecidableEq, Repr

def Deed.isAttempt : Deed → Bool
  | attempt _ => true
  | pause _ => false

/-- What a retry works on, with the record of what it has done. -/
structure Recorded (σ δ : Type) where
  done : List Deed
  state : σ
  delay : δ

/-- A retry that is suspended in the pause before its next trial. -/
structure Suspended (ρ : Type) where
  next : UInt32
  rest : ρ

/-- The number after a number of 32 bits, unless it overflows. -/
def successor? (number : UInt32) : Option UInt32 :=
  if number.toNat + 1 < UInt32.size then some (number + 1) else none

theorem toNat_of_successor? {number next : UInt32} (found : successor? number = some next)
    : next.toNat = number.toNat + 1 := by
  unfold successor? at found
  split at found
  · rename_i fits
    rw [← Option.some.inj found, UInt32.toNat_add]
    exact Nat.mod_eq_of_lt fits
  · cases found

/-- A number below another one of 32 bits does not overflow. -/
theorem exists_successor? {number bound : UInt32} (below : number.toNat < bound.toNat)
    : ∃ next, successor? number = some next :=
  ⟨number + 1, if_pos (Nat.lt_of_le_of_lt below bound.toNat_lt)⟩

/-- What is recorded of an attempt. -/
def Recorded.tried (attempt : σ → Bool × σ) (now : Recorded σ δ) : Recorded σ δ :=
  { now with
    done := now.done ++ [.attempt (attempt now.state).1]
    state := (attempt now.state).2 }

/-- What is recorded of a pause that begins. -/
def Recorded.paused (interval : Nat) (now : Recorded σ δ) : Recorded σ δ :=
  { now with done := now.done ++ [.pause interval] }

/-- Make the trials from one number on, counted from zero. There is no answer if the count
overflows.
-/
def loop (timer : Timer δ ρ) (interval : Nat) (attempt : σ → Bool × σ) (budget trial : UInt32)
    (now : Recorded σ δ)
    : Option (Poll (Suspended ρ) Bool × Recorded σ δ) :=
  if trial < budget then
    let tried := now.tried attempt
    if (attempt now.state).1 then
      some (.ready true, tried)
    else
      match _counted : successor? trial with
      | none => none
      | some next =>
        if next < budget then
          let pausing := tried.paused interval
          match timer.start interval pausing.delay with
          | (.ready (), delay) =>
            loop timer interval attempt budget next { pausing with delay }
          | (.pending rest, delay) => some (.pending ⟨next, rest⟩, { pausing with delay })
        else
          loop timer interval attempt budget next tried
  else
    some (.ready false, now)
termination_by budget.toNat - trial.toNat
decreasing_by
  all_goals
    have counted := toNat_of_successor? ‹successor? trial = some _›
    have more := UInt32.lt_iff_toNat_lt.mp ‹trial < budget›
    omega

/-- Go on with a trial as soon as the pause before it is over. -/
def goOn (timer : Timer δ ρ) (interval : Nat) (attempt : σ → Bool × σ) (budget next : UInt32)
    (now : Recorded σ δ)
    : Poll ρ Unit × δ → Option (Poll (Suspended ρ) Bool × Recorded σ δ)
  | (.ready (), delay) => loop timer interval attempt budget next { now with delay }
  | (.pending rest, delay) => some (.pending ⟨next, rest⟩, { now with delay })

/-- Poll the loop once more; it is left alone once it is over. -/
def pollLoop (timer : Timer δ ρ) (interval : Nat) (attempt : σ → Bool × σ) (budget : UInt32)
    : Option (Poll (Suspended ρ) Bool × Recorded σ δ)
      → Option (Poll (Suspended ρ) Bool × Recorded σ δ)
  | some (.pending suspended, now) =>
    goOn timer interval attempt budget suspended.next now
      (timer.poll suspended.rest now.delay)
  | ended => ended

/-- How far the loop has got after its first poll and a number of further ones. -/
def polled (timer : Timer δ ρ) (interval : Nat) (attempt : σ → Bool × σ) (budget : UInt32)
    (state : σ) (delay : δ) (polls : Nat)
    : Option (Poll (Suspended ρ) Bool × Recorded σ δ) :=
  (pollLoop timer interval attempt budget)^[polls]
    (loop timer interval attempt budget 0 ⟨[], state, delay⟩)

section Steps

variable {timer : Timer δ ρ} {interval : Nat} {attempt : σ → Bool × σ} {budget trial : UInt32}
  {now : Recorded σ δ}

theorem loop_of_success (more : trial.toNat < budget.toNat)
    (succeeded : (attempt now.state).1 = true)
    : loop timer interval attempt budget trial now = some (.ready true, now.tried attempt) := by
  have more : trial < budget := UInt32.lt_iff_toNat_lt.mpr more
  rw [loop, if_pos more]
  exact if_pos succeeded

/-- A failure is followed by a pause if there is another trial, and is the end if there is none. -/
theorem loop_of_failure (timer : Timer δ ρ) (interval : Nat)
    (more : trial.toNat < budget.toNat)
    (failed : (attempt now.state).1 = false)
    : ∃ next : UInt32,
        next.toNat = trial.toNat + 1
        ∧ loop timer interval attempt budget trial now
          = if next.toNat < budget.toNat then
              goOn timer interval attempt budget next ((now.tried attempt).paused interval)
                (timer.start interval now.delay)
            else
              some (.ready false, now.tried attempt) := by
  obtain ⟨next, found⟩ := exists_successor? more
  refine ⟨next, toNat_of_successor? found, ?_⟩
  have more : trial < budget := UInt32.lt_iff_toNat_lt.mpr more
  rw [loop, if_pos more]
  simp only [failed, Bool.false_eq_true, if_false]
  split
  · rename_i none
    rw [found] at none
    cases none
  · rename_i other same
    obtain rfl := Option.some.inj (found.symm.trans same)
    simp only [← UInt32.lt_iff_toNat_lt]
    split
    · unfold goOn
      rfl
    · rename_i last
      rw [loop, if_neg last]

end Steps

-----------------------------------------------------------------------------------------
-- What is on record
-----------------------------------------------------------------------------------------

/-- Attempts with these answers, and a pause between two of them. -/
def deeds (interval : Nat) (answered : List Bool) : List Deed :=
  (answered.map Deed.attempt).intersperse (.pause interval)

/-- A number of failures, with a pause after each of them. -/
def rounds (interval count : Nat) : List Deed :=
  (List.replicate count [Deed.attempt false, .pause interval]).flatten

theorem deeds_cons {answered : List Bool} (some : answered ≠ []) (interval : Nat) (first : Bool)
    : deeds interval (first :: answered)
      = [.attempt first, .pause interval] ++ deeds interval answered := by
  obtain ⟨answer, rest, rfl⟩ := List.exists_cons_of_ne_nil some
  rfl

/-- There is a deed for each attempt, by induction over them. -/
theorem countP_deeds (interval : Nat) (answered : List Bool)
    : (deeds interval answered).countP Deed.isAttempt = answered.length := by
  induction answered with
  | nil => rfl
  | cons first rest ih =>
      by_cases some : rest = []
      · rw [some]
        rfl
      · rw [deeds_cons some, List.countP_append, ih, List.length_cons, Nat.add_comm]
        rfl

/-- There is a pause for each attempt but one, by induction over them. -/
theorem count_deeds (interval : Nat) (answered : List Bool)
    : (deeds interval answered).count (.pause interval) = answered.length - 1 := by
  induction answered with
  | nil => rfl
  | cons first rest ih =>
      by_cases some : rest = []
      · rw [some]
        rfl
      · have once : [Deed.attempt first, .pause interval].count (.pause interval) = 1 := by simp
        have more : 0 < rest.length := List.length_pos_iff.mpr some
        rw [deeds_cons some, List.count_append, ih, once, List.length_cons]
        omega

/-- All attempts but the last have a pause after them, by induction over their number. -/
theorem deeds_concat (interval count : Nat) (last : Bool)
    : deeds interval (List.replicate count false ++ [last])
      = rounds interval count ++ [.attempt last] := by
  induction count with
  | zero => rfl
  | succ count ih =>
      rw [List.replicate_succ, List.cons_append, deeds_cons (by simp), ih]
      rfl

theorem rounds_succ (interval count : Nat)
    : rounds interval (count + 1)
      = rounds interval count ++ [.attempt false, .pause interval] := by
  simp [rounds, List.replicate_succ']

/-- A retry that pauses has begun a pause after attempts that had one between two of them. -/
theorem rounds_eq_deeds {interval count : Nat} (some : 0 < count)
    : rounds interval count
      = deeds interval (List.replicate count false) ++ [.pause interval] := by
  obtain ⟨count, rfl⟩ := Nat.exists_eq_succ_of_ne_zero some.ne'
  rw [List.replicate_succ', deeds_concat, rounds_succ, List.append_assoc]
  rfl

section Courses

/-- A number of attempts have failed, and after each of them a pause has begun. -/
structure Failed (interval : Nat) (attempt : σ → Bool × σ) (state : σ) (count : Nat)
    (now : Recorded σ δ)
    : Prop where
  answered : answers attempt count state = List.replicate count false
  reached : now.state = after attempt count state
  done : now.done = rounds interval count

/-- How far a retry can have got: an attempt in time has succeeded, all trials are used up, or it
pauses with some of them left.
-/
inductive Course (interval : Nat) (attempt : σ → Bool × σ) (budget : UInt32) (state : σ)
    : Poll (Suspended ρ) Bool × Recorded σ δ → Prop
  | succeeded {count : Nat} {now} (inTime : count < budget.toNat)
    (answered : answers attempt (count + 1) state = List.replicate count false ++ [true])
    (reached : now.state = after attempt (count + 1) state)
    (done : now.done = deeds interval (answers attempt (count + 1) state))
    : Course interval attempt budget state (.ready true, now)
  | exhausted {now}
    (answered : answers attempt budget.toNat state = List.replicate budget.toNat false)
    (reached : now.state = after attempt budget.toNat state)
    (done : now.done = deeds interval (answers attempt budget.toNat state))
    : Course interval attempt budget state (.ready false, now)
  | pausing {suspended now} (some : 0 < suspended.next.toNat)
    (more : suspended.next.toNat < budget.toNat)
    (failed : Failed interval attempt state suspended.next.toNat now)
    : Course interval attempt budget state (.pending suspended, now)

variable {timer : Timer δ ρ} {interval : Nat} {attempt : σ → Bool × σ} {budget trial : UInt32}
  {state : σ} {now : Recorded σ δ} {count : Nat}

theorem Failed.answers_succ (failed : Failed interval attempt state count now)
    : answers attempt (count + 1) state
      = List.replicate count false ++ [(attempt now.state).1] := by
  rw [answers_add, failed.answered, ← failed.reached]
  rfl

theorem Failed.reached_succ (failed : Failed interval attempt state count now)
    : (now.tried attempt).state = after attempt (count + 1) state := by
  rw [after_add, ← failed.reached]
  rfl

theorem Failed.done_succ (failed : Failed interval attempt state count now)
    : (now.tried attempt).done = deeds interval (answers attempt (count + 1) state) := by
  rw [failed.answers_succ, deeds_concat, ← failed.done]
  rfl

/-- Another failure, and the pause after it. -/
theorem Failed.again (failed : Failed interval attempt state count now)
    (refused : (attempt now.state).1 = false)
    : Failed interval attempt state (count + 1) ((now.tried attempt).paused interval) where
  answered := by rw [failed.answers_succ, refused, ← List.replicate_succ']
  reached := failed.reached_succ
  done := by
    rw [Recorded.paused, failed.done_succ, failed.answers_succ, deeds_concat, refused,
      rounds_succ, List.append_assoc]
    rfl

/-- A retry goes on after a pause as it does from the trial that comes next. -/
theorem course_goOn (failed : Failed interval attempt state trial.toNat now)
    (some : 0 < trial.toNat) (more : trial.toNat < budget.toNat)
    (begun
      : ∀ now : Recorded σ δ, Failed interval attempt state trial.toNat now
        → ∃ progress, loop timer interval attempt budget trial now = .some progress
          ∧ Course interval attempt budget state progress)
    (wait : Poll ρ Unit × δ)
    : ∃ progress, goOn timer interval attempt budget trial now wait = .some progress
      ∧ Course interval attempt budget state progress := by
  have kept (delay : δ) : Failed interval attempt state trial.toNat { now with delay } :=
    ⟨failed.answered, failed.reached, failed.done⟩
  match wait with
  | (.ready (), delay) => exact begun _ (kept delay)
  | (.pending rest, delay) => exact ⟨_, rfl, .pausing some more (kept delay)⟩

/-- From every trial that is left the loop keeps to a course, by recursion on those after it. -/
theorem course_loop {trial : UInt32} {now : Recorded σ δ}
    (failed : Failed interval attempt state trial.toNat now) (more : trial.toNat < budget.toNat)
    : ∃ progress, loop timer interval attempt budget trial now = some progress
      ∧ Course interval attempt budget state progress := by
  cases answer : (attempt now.state).1 with
  | true =>
      refine ⟨_, loop_of_success more answer,
        .succeeded more ?_ failed.reached_succ failed.done_succ⟩
      rw [failed.answers_succ, answer]
  | false =>
      obtain ⟨next, counted, step⟩ := loop_of_failure timer interval more answer
      have again := counted ▸ failed.again answer
      rw [step]
      split
      · rename_i left
        exact course_goOn again (by omega) left (fun _ failed => course_loop failed left) _
      · have last : budget.toNat = trial.toNat + 1 := by omega
        refine ⟨_, rfl, .exhausted ?_ ?_ ?_⟩
        · rw [last, failed.answers_succ, answer, ← List.replicate_succ']
        · rw [last, failed.reached_succ]
        · rw [last, failed.done_succ]
termination_by budget.toNat - trial.toNat

/-- Whatever the budget is, the loop keeps to a course from its first poll on. -/
theorem course_begin (timer : Timer δ ρ) (interval : Nat) (attempt : σ → Bool × σ)
    (budget : UInt32) (state : σ) (delay : δ)
    : ∃ progress, loop timer interval attempt budget 0 ⟨[], state, delay⟩ = some progress
      ∧ Course interval attempt budget state progress := by
  by_cases more : (0 : UInt32).toNat < budget.toNat
  · exact course_loop ⟨rfl, rfl, rfl⟩ more
  · have none : budget.toNat = 0 := Nat.eq_zero_of_not_pos more
    refine ⟨(.ready false, ⟨[], state, delay⟩), ?_, ?_⟩
    · rw [loop, if_neg (UInt32.lt_iff_toNat_lt.not.mpr more)]
    · refine .exhausted ?_ ?_ ?_ <;> rw [none] <;> rfl

theorem Course.poll (timer : Timer δ ρ) {progress : Poll (Suspended ρ) Bool × Recorded σ δ}
    (course : Course interval attempt budget state progress)
    : ∃ next, pollLoop timer interval attempt budget (some progress) = some next
      ∧ Course interval attempt budget state next := by
  cases course with
  | succeeded inTime answered reached done =>
      exact ⟨_, rfl, .succeeded inTime answered reached done⟩
  | exhausted answered reached done => exact ⟨_, rfl, .exhausted answered reached done⟩
  | pausing some more failed =>
      exact course_goOn failed some more (fun _ failed => course_loop failed more) _

/-- The loop keeps to a course however often it is polled, by induction on the polls. -/
theorem course_polled (timer : Timer δ ρ) (interval : Nat) (attempt : σ → Bool × σ)
    (budget : UInt32) (state : σ) (delay : δ) (polls : Nat)
    : ∃ progress, polled timer interval attempt budget state delay polls = some progress
      ∧ Course interval attempt budget state progress := by
  induction polls with
  | zero => exact course_begin timer interval attempt budget state delay
  | succ polls ih =>
      obtain ⟨progress, here, course⟩ := ih
      obtain ⟨next, there, later⟩ := course.poll timer
      refine ⟨next, ?_, later⟩
      rw [polled, Function.iterate_succ_apply', ← polled, here, there]

end Courses

-----------------------------------------------------------------------------------------
-- How it ends
-----------------------------------------------------------------------------------------

section Endings

variable {timer : Timer δ ρ} {interval : Nat} {attempt : σ → Bool × σ} {budget trial : UInt32}
  {now : Recorded σ δ}

/-- A loop that is over after finitely many polls. -/
def Finishes (timer : Timer δ ρ) (interval : Nat) (attempt : σ → Bool × σ) (budget : UInt32)
    (progress : Option (Poll (Suspended ρ) Bool × Recorded σ δ))
    : Prop :=
  ∃ polls result now,
    (pollLoop timer interval attempt budget)^[polls] progress = some (.ready result, now)

theorem finishes_ready (result : Bool) (now : Recorded σ δ)
    : Finishes timer interval attempt budget (some (.ready result, now)) :=
  ⟨0, result, now, rfl⟩

theorem Finishes.ofPoll {progress : Option (Poll (Suspended ρ) Bool × Recorded σ δ)}
    (finishes
      : Finishes timer interval attempt budget
          (pollLoop timer interval attempt budget progress))
    : Finishes timer interval attempt budget progress := by
  obtain ⟨polls, result, now, ended⟩ := finishes
  exact ⟨polls + 1, result, now, ended⟩

/-- A pause that ends does not keep the loop from its end, by induction on the polls it takes. -/
theorem finishes_goOn {wait : Poll ρ Unit × δ} (ends : timer.Ends wait)
    (begun
      : ∀ now : Recorded σ δ,
          Finishes timer interval attempt budget
            (loop timer interval attempt budget trial now))
    (now : Recorded σ δ)
    : Finishes timer interval attempt budget
        (goOn timer interval attempt budget trial now wait) := by
  induction ends generalizing now with
  | ended delay => exact begun { now with delay }
  | polled _ ih => exact .ofPoll (ih _)

/-- The loop ends if its pauses do, by recursion on the trials that are left. -/
theorem finishes_loop (prompt : timer.Prompt) (interval : Nat) (attempt : σ → Bool × σ)
    (budget trial : UInt32) (now : Recorded σ δ)
    : Finishes timer interval attempt budget
        (loop timer interval attempt budget trial now) := by
  by_cases more : trial.toNat < budget.toNat
  · cases answer : (attempt now.state).1 with
    | true =>
        rw [loop_of_success more answer]
        exact finishes_ready true _
    | false =>
        obtain ⟨next, counted, step⟩ := loop_of_failure timer interval more answer
        rw [step]
        split
        · exact finishes_goOn (prompt interval now.delay)
            (finishes_loop prompt interval attempt budget next) _
        · exact finishes_ready false _
  · rw [loop, if_neg (UInt32.lt_iff_toNat_lt.not.mpr more)]
    exact finishes_ready false now
termination_by budget.toNat - trial.toNat

end Endings

-----------------------------------------------------------------------------------------
-- The retry as the loop
-----------------------------------------------------------------------------------------

section Delays

variable {interval : Nat} {attempt : σ → Bool × σ} {budget : UInt32}

/-- Poll a retry once more; it is left alone once it is over. -/
def poll (interval : Nat) (attempt : σ → Bool × σ)
    : Poll Paused Bool × σ × Delay → Poll Paused Bool × σ × Delay
  | (.pending paused, state, delay) => resume interval attempt paused state delay
  | ended => ended

/-- What the loop has got to without its record, by the trials that are left. -/
def unrecorded (budget : UInt32)
    : Poll (Suspended (List Nat)) Bool × Recorded σ Delay → Poll Paused Bool × σ × Delay
  | (.ready result, now) => (.ready result, now.state, now.delay)
  | (.pending suspended, now) =>
    (.pending ⟨budget.toNat - suspended.next.toNat, suspended.rest⟩, now.state, now.delay)

theorem run_of_failure {trials : Nat} {state : σ} {delay : Delay}
    (failed : (attempt state).1 = false)
    : run interval attempt (trials + 1) state delay
      = if trials = 0 then
          (.ready false, (attempt state).2, delay)
        else
          resume interval attempt ⟨trials, Delay.milliseconds interval⟩ (attempt state).2
            delay := by
  simp [run, resume, failed]

theorem goOn_eq_resume {next : UInt32} {slices : List Nat}
    (begun
      : ∀ now : Recorded σ Delay,
          (loop Delay.timer interval attempt budget next now).map (unrecorded budget)
          = some (run interval attempt (budget.toNat - next.toNat) now.state now.delay))
    (now : Recorded σ Delay) (delay : Delay)
    : (goOn Delay.timer interval attempt budget next now (delay.pause slices)).map
        (unrecorded budget)
      = some (resume interval attempt ⟨budget.toNat - next.toNat, slices⟩ now.state delay) := by
  unfold resume
  match delay.pause slices with
  | (.ready (), later) => exact begun { now with delay := later }
  | (.pending rest, later) => rfl

/-- Counting the trials that were made is counting those that are left, by recursion on them. -/
theorem loop_eq_run (trial : UInt32) (now : Recorded σ Delay)
    : (loop Delay.timer interval attempt budget trial now).map (unrecorded budget)
      = some (run interval attempt (budget.toNat - trial.toNat) now.state now.delay) := by
  by_cases more : trial.toNat < budget.toNat
  · obtain ⟨left, split⟩ := Nat.exists_eq_add_of_lt more
    have trials : budget.toNat - trial.toNat = left + 1 := by omega
    cases answer : (attempt now.state).1 with
    | true =>
        rw [loop_of_success more answer, trials]
        simp [run, answer, unrecorded, Recorded.tried]
    | false =>
        obtain ⟨next, counted, step⟩ := loop_of_failure Delay.timer interval more answer
        have rest : budget.toNat - next.toNat = left := by omega
        rw [step, trials, run_of_failure answer]
        split
        · rename_i more
          rw [if_neg (by omega), ← rest]
          exact goOn_eq_resume (fun now => loop_eq_run next now)
            ((now.tried attempt).paused interval) now.delay
        · rw [if_pos (by omega)]
          rfl
  · have none : budget.toNat - trial.toNat = 0 := Nat.sub_eq_zero_of_le (Nat.not_lt.mp more)
    rw [loop, if_neg (UInt32.lt_iff_toNat_lt.not.mpr more), none]
    rfl
termination_by budget.toNat - trial.toNat

/-- However often it is polled, the retry is where the loop is, by induction on the polls. -/
theorem polled_eq_poll (interval : Nat) (attempt : σ → Bool × σ) (budget : UInt32) (state : σ)
    (delay : Delay) (polls : Nat)
    : (polled Delay.timer interval attempt budget state delay polls).map (unrecorded budget)
      = some ((poll interval attempt)^[polls]
          (run interval attempt budget.toNat state delay)) := by
  induction polls with
  | zero => exact loop_eq_run 0 _
  | succ polls ih =>
      obtain ⟨⟨outcome, now⟩, here, same⟩ := Option.map_eq_some_iff.mp ih
      rw [Function.iterate_succ_apply', ← same, polled, Function.iterate_succ_apply', ← polled,
        here]
      cases outcome with
      | ready result => rfl
      | pending suspended =>
          exact goOn_eq_resume (fun now => loop_eq_run suspended.next now) now now.delay

end Delays

-----------------------------------------------------------------------------------------
-- The budget
-----------------------------------------------------------------------------------------

section Budget

variable {attempt : σ → Bool × σ} {state : σ} {count : Nat}

/-- The number of the first attempt that succeeds, counted from one; infinite if none does. -/
noncomputable def firstSuccess (attempt : σ → Bool × σ) (state : σ) : ℕ∞ :=
  ⨅ count : { count : Nat // (attempt (after attempt count state)).1 = true },
    ((count + 1 : Nat) : ℕ∞)

/-- An attempt answers what it answers after those before it. -/
theorem getElem?_answers {place : Nat} (inside : place < count)
    : (answers attempt count state)[place]? = some (attempt (after attempt place state)).1 := by
  obtain ⟨rest, rfl⟩ := Nat.exists_eq_add_of_lt inside
  rw [Nat.add_assoc, answers_add, List.getElem?_append_right (by simp)]
  simp [answers]

/-- While all attempts fail, the first success is yet to come. -/
theorem lt_firstSuccess (failed : answers attempt count state = List.replicate count false)
    : (count : ℕ∞) < firstSuccess attempt state := by
  have later : ((count + 1 : Nat) : ℕ∞) ≤ firstSuccess attempt state := by
    refine le_iInf fun ⟨place, succeeded⟩ => ?_
    refine Nat.cast_le.mpr (Nat.succ_le_succ (Nat.le_of_not_lt fun before => ?_))
    have answered : (answers attempt count state)[place]? = some true :=
      (getElem?_answers before).trans (congrArg some succeeded)
    rw [failed, List.getElem?_replicate_of_lt before] at answered
    cases answered
  exact lt_of_lt_of_le (Nat.cast_lt.mpr (Nat.lt_succ_self count)) later

theorem firstSuccess_of_answers
    (answered
      : answers attempt (count + 1) state = List.replicate count false ++ [true])
    : firstSuccess attempt state = (count + 1 : Nat) := by
  rw [answers_add] at answered
  obtain ⟨failed, last⟩ := List.append_inj' answered rfl
  have succeeded : (attempt (after attempt count state)).1 = true := by
    simpa [answers] using last
  refine le_antisymm (iInf_le_of_le ⟨count, succeeded⟩ le_rfl) ?_
  exact Order.add_one_le_of_lt (lt_firstSuccess failed)

end Budget

/-- What is known of a retry that makes a number of attempts in all. When it is over it has made
them, with one pause between two of them, and tells whether the last one succeeded. Before that it
is in a pause after some of them.
-/
inductive Keeps (interval : Nat) (attempt : σ → Bool × σ) (state : σ) (made : Nat)
    (succeeds : Prop)
    : Poll (Suspended ρ) Bool × Recorded σ δ → Prop
  | ended {result : Bool} {now} (told : result = true ↔ succeeds)
    (done : now.done = deeds interval (answers attempt made state))
    (attempts : now.done.countP Deed.isAttempt = made)
    (pauses : now.done.count (.pause interval) = made - 1)
    (reached : now.state = after attempt made state)
    : Keeps interval attempt state made succeeds (.ready result, now)
  | pausing {suspended now} {count : Nat} (begun : 0 < count) (more : count < made)
    (done : now.done = deeds interval (answers attempt count state) ++ [.pause interval])
    (reached : now.state = after attempt count state)
    : Keeps interval attempt state made succeeds (.pending suspended, now)

/-- What a course has come to tells how many attempts it makes: as many as it takes to the first
success, and no more than the budget.
-/
theorem Course.keeps {interval : Nat} {attempt : σ → Bool × σ} {budget : UInt32} {state : σ}
    {progress : Poll (Suspended ρ) Bool × Recorded σ δ} {made : Nat}
    (course : Course interval attempt budget state progress)
    (least : (made : ℕ∞) = min (firstSuccess attempt state) budget.toNat)
    : Keeps interval attempt state made (firstSuccess attempt state ≤ budget.toNat)
        progress := by
  have ended {result : Bool} {now : Recorded σ δ}
      (told : result = true ↔ firstSuccess attempt state ≤ budget.toNat)
      (done : now.done = deeds interval (answers attempt made state))
      (reached : now.state = after attempt made state)
      : Keeps interval attempt state made (firstSuccess attempt state ≤ budget.toNat)
          ((.ready result, now) : Poll (Suspended ρ) Bool × Recorded σ δ) := by
    refine .ended told done ?_ ?_ reached
    · rw [done, countP_deeds, length_answers]
    · rw [done, count_deeds, length_answers]
  cases course with
  | @succeeded count _ inTime answered reached done =>
      have first := firstSuccess_of_answers answered
      have within : firstSuccess attempt state ≤ budget.toNat := by
        rw [first]
        exact Nat.cast_le.mpr inTime
      have all : made = count + 1 := by
        rw [min_eq_left within, first] at least
        exact Nat.cast_inj.mp least
      subst all
      exact ended (iff_of_true rfl within) done reached
  | exhausted answered reached done =>
      have beyond := lt_firstSuccess answered
      have all : made = budget.toNat := by
        rw [min_eq_right beyond.le] at least
        exact Nat.cast_inj.mp least
      subst all
      exact ended (iff_of_false Bool.false_ne_true (not_le.mpr beyond)) done reached
  | @pausing suspended now some more failed =>
      have left : suspended.next.toNat < made := by
        rw [← Nat.cast_lt (α := ℕ∞), least]
        exact lt_min (lt_firstSuccess failed.answered) (Nat.cast_lt.mpr more)
      refine .pausing some left ?_ failed.reached
      rw [failed.done, failed.answered, rounds_eq_deeds some]

/-- Whatever is attempted, whatever the budget of 32 bits is and whatever timer makes the pauses, a
retry makes attempts until one succeeds or the budget is used up, and pauses once between two of
them. It never overflows and ends if its pauses do, however many polls they take.
-/
theorem keeps_to_budget (timer : Timer δ ρ) (interval : Nat) (attempt : σ → Bool × σ)
    (budget : UInt32) (state : σ) (delay : δ)
    : let first := firstSuccess attempt state
      ∃ made : Nat,
        (made : ℕ∞) = min first budget.toNat
        ∧ (∀ polls, ∃ progress,
            polled timer interval attempt budget state delay polls = some progress
            ∧ Keeps interval attempt state made (first ≤ budget.toNat) progress)
        ∧ (timer.Prompt
          → ∃ polls result now,
              polled timer interval attempt budget state delay polls
              = some (.ready result, now))
        ∧ ∀ meter : Delay,
            (∀ polls,
              (polled Delay.timer interval attempt budget state meter polls).map
                (unrecorded budget)
              = some ((poll interval attempt)^[polls]
                  (run interval attempt budget.toNat state meter)))
            ∧ ∃ polls result spent,
                (poll interval attempt)^[polls]
                    (run interval attempt budget.toNat state meter)
                  = (.ready result, after attempt made state, spent)
                ∧ (result = true ↔ first ≤ budget.toNat) := by
  intro first
  have finite : min first budget.toNat ≠ ⊤ :=
    (lt_of_le_of_lt (min_le_right _ _) (ENat.natCast_lt_top budget.toNat)).ne
  obtain ⟨made, least⟩ := ENat.ne_top_iff_exists.mp finite
  refine ⟨made, least, ?_, ?_, ?_⟩
  · intro polls
    obtain ⟨progress, here, course⟩ :=
      course_polled timer interval attempt budget state delay polls
    exact ⟨progress, here, course.keeps least⟩
  · exact fun prompt => finishes_loop prompt interval attempt budget 0 ⟨[], state, delay⟩
  · refine fun meter => ⟨polled_eq_poll interval attempt budget state meter, ?_⟩
    obtain ⟨polls, result, now, ended⟩ :=
      finishes_loop Delay.prompt_timer interval attempt budget 0 ⟨[], state, meter⟩
    obtain ⟨_, here, course⟩ :=
      course_polled Delay.timer interval attempt budget state meter polls
    obtain rfl := Option.some.inj (here.symm.trans ended)
    have same := polled_eq_poll interval attempt budget state meter polls
    rw [here] at same
    cases course.keeps least with
    | ended told _ _ _ reached =>
        refine ⟨polls, result, now.delay, ?_, told⟩
        rw [← Option.some.inj same, ← reached]
        rfl

/-- A success in the last trial counts, and with one trial less it comes too late. The pauses of
this timer are polled once for each of their milliseconds and once more.
-/
theorem keeps_to_budget_in_last_trial
    : let timer : Timer Unit Nat :=
        { start := fun milliseconds meter => (.pending milliseconds, meter)
          poll := fun rest meter => (if rest = 0 then .ready () else .pending (rest - 1), meter) }
      let third (calls : Nat) := (calls == 2, calls + 1)
      let ends (budget : UInt32) (succeeds : Bool) (done : List Deed) : Prop :=
        ∃ polls now,
          polled timer 5 third budget 0 () polls = some (.ready succeeds, now) ∧ now.done = done
      ends 3 true [.attempt false, .pause 5, .attempt false, .pause 5, .attempt true]
      ∧ ends 2 false [.attempt false, .pause 5, .attempt false]
      ∧ ends 0 false [] := by
  intro timer third ends
  have first : firstSuccess third 0 = (2 + 1 : Nat) := firstSuccess_of_answers rfl
  have prompt : timer.Prompt := by
    have polled (rest : Nat) : timer.Ends (.pending rest, ()) := by
      induction rest with
      | zero => exact .polled (.ended ())
      | succ rest ih => exact .polled ih
    exact fun milliseconds _ => polled milliseconds
  have course (budget : UInt32)
      : ends budget (decide (3 ≤ budget.toNat))
          (deeds 5 (answers third (min 3 budget.toNat) 0)) := by
    obtain ⟨made, least, keeps, finishes, -⟩ := keeps_to_budget timer 5 third budget 0 ()
    obtain ⟨polls, result, now, ended⟩ := finishes prompt
    obtain ⟨_, here, kept⟩ := keeps polls
    obtain rfl := Option.some.inj (here.symm.trans ended)
    rw [first] at least kept
    cases kept with
    | ended told done =>
        obtain rfl : made = min 3 budget.toNat :=
          Nat.cast_inj.mp (least.trans Nat.mono_cast.map_min.symm)
        obtain rfl : result = decide (3 ≤ budget.toNat) := by
          rw [Bool.eq_iff_iff, told, decide_eq_true_iff]
          exact Nat.cast_le
        exact ⟨polls, now, ended, done⟩
  exact ⟨course 3, course 2, course 0⟩

end Retry

end TwoWire
