import TwoWire.Proofs.Refusals
import TwoWire.Proofs.Waiting

/-! The turns of a task: the actions that begin it or poll it, each between the states before and
after it.

What a task does is what happens in its turns. An invariant that its polls carry on, and that
nothing beside the task breaks, holds in every run in which the task is minded.
-/

namespace TwoWire

-----------------------------------------------------------------------------------------
-- What is said on one bus
-----------------------------------------------------------------------------------------

namespace Master

/-- These commands were said on one bus, and nothing was done elsewhere. -/
structure Speaks (master : Master) (id : BusId) (said : List Command) (next : Master)
    : Prop where
  same : master.SameBut id next
  said
    : ∀ before, master.peripheral? id = some before
      → ∃ after, next.peripheral? id = some after ∧ before.Says said after

variable {master middle next : Master} {id other : BusId} {first second said : List Command}

theorem SameBut.bus_of_ne (same : master.SameBut id next) (distinct : other ≠ id)
    : next.bus other = master.bus other := by
  rw [same]
  exact PerBus.get_set_of_ne distinct

theorem SameBut.slaves (same : master.SameBut id next)
    : next.slaves = master.slaves := by
  rw [same]
  rfl

theorem Speaks.refl (master : Master) (id : BusId)
    : master.Speaks id [] master :=
  ⟨.refl master id, fun before here => ⟨before, here, before.says_nothing⟩⟩

theorem Speaks.trans (head : master.Speaks id first middle)
    (tail : middle.Speaks id second next)
    : master.Speaks id (first ++ second) next := by
  refine ⟨head.same.trans tail.same, fun before here => ?_⟩
  obtain ⟨between, there, spoken⟩ := head.said before here
  obtain ⟨after, last, more⟩ := tail.said between there
  exact ⟨after, last, spoken.andSays more⟩

theorem Speaks.saidUntil (speaks : master.Speaks id said next)
    (present : (master.peripheral? id).isSome = true)
    : master.saidUntil next id = said := by
  obtain ⟨before, here⟩ := Option.isSome_iff_exists.mp present
  obtain ⟨after, there, spoken⟩ := speaks.said before here
  exact saidUntil_of_commands here there spoken.commands

/-- Nothing is said on a bus that is left alone. -/
theorem saidUntil_of_bus (same : next.bus other = master.bus other)
    : master.saidUntil next other = [] := by
  have there : next.peripheral? other = master.peripheral? other := congrArg Bus.peripheral same
  cases here : master.peripheral? other with
  | none => simp [Master.saidUntil, here]
  | some peripheral =>
      exact saidUntil_of_commands here (there.trans here) (List.append_nil _).symm

/-- A slave is found as before, since its bus still has a peripheral. -/
theorem Speaks.resolve (speaks : master.Speaks id said next) {handle : Handle} {slave : Slave}
    (known : master.resolve handle = .ok slave) (home : slave.bus = id)
    : next.resolve handle = .ok slave := by
  obtain ⟨found, peripheral, here⟩ := get?_of_resolve known
  subst home
  obtain ⟨after, there, -⟩ := speaks.said peripheral here
  simp [Master.resolve, speaks.same.slaves, found, there]

end Master

-----------------------------------------------------------------------------------------
-- Sequences of which the first values are known
-----------------------------------------------------------------------------------------

/-- The values are the first of a sequence. -/
def Heads {α : Type} (values : List α) (sequence : Nat → α) : Prop :=
  ∀ place value, values[place]? = some value → sequence place = value

section Heads

variable {α : Type} {values more : List α} {sequence : Nat → α}

theorem Heads.of_append (heads : Heads (values ++ more) sequence)
    : Heads values sequence := by
  intro place value found
  refine heads place value ?_
  rw [List.getElem?_append_left (List.getElem?_eq_some_iff.mp found).1]
  exact found

theorem Heads.last {value : α} (heads : Heads (values ++ [value]) sequence)
    : sequence values.length = value :=
  heads values.length value List.getElem?_concat_length

/-- What is not among the values is not met in the sequence as far as they go. -/
theorem Heads.ne {value : α} (heads : Heads values sequence) (missing : value ∉ values)
    : ∀ place < values.length, sequence place ≠ value := by
  intro place inside same
  rw [heads place _ (List.getElem?_eq_getElem inside)] at same
  exact missing (same ▸ List.getElem_mem inside)

end Heads

-----------------------------------------------------------------------------------------
-- Turns
-----------------------------------------------------------------------------------------

/-- One action with its answer, between the states before and after it. -/
structure Turn where
  before : Bench
  answer : Answer
  after : Bench

/-- The commands that an action gave on a bus. -/
def Turn.said (turn : Turn) (id : BusId) : List Command :=
  turn.before.master.saidUntil turn.after.master id

/-- The bus was idle when the action came. -/
def Turn.findsIdle (id : BusId) (turn : Turn) : Bool :=
  !(turn.before.master.bus id).isBusy

namespace Bench

def turn (bench : Bench) (action : Action) : Turn :=
  ⟨bench, (bench.step action).1, (bench.step action).2⟩

/-- The turns of a task in a run, in their order. -/
def turns (number : Nat) : Bench → List Action → List Turn
  | _, [] => []
  | bench, action :: rest =>
    (if action.names? = some number then [bench.turn action] else [])
      ++ turns number (bench.step action).2 rest

/-- A task is minded: nothing names it but its polls, and they come only while it waits. -/
def Minds (number : Nat) (bench : Bench) (action : Action) : Prop :=
  action.names? ≠ some number
  ∨ action = .poll number ∧ (bench.task? number).isSome = true

theorem task?_discard_self (bench : Bench) (number : Nat)
    : (bench.discard number).task? number = none := by
  simpa [discard, task?, List.lookup_eq_none_iff] using fun _ _ _ other same => other same.symm

/-- Every action of a run is one of the actions of the run, by induction over them. -/
theorem Follows.andMem {rule : Bench → Action → Prop} {bench : Bench} {actions : List Action}
    (follows : Follows rule bench actions)
    : Follows (fun bench action => rule bench action ∧ action ∈ actions) bench actions := by
  have mono {more : List Action} (bench : Bench) (actions : List Action)
      (follows : Follows rule bench actions) (within : ∀ action ∈ actions, action ∈ more)
      : Follows (fun bench action => rule bench action ∧ action ∈ more) bench actions := by
    induction actions generalizing bench with
    | nil => exact True.intro
    | cons action rest ih =>
        exact ⟨⟨follows.1, within action List.mem_cons_self⟩,
          ih _ follows.2 (fun later member => within later (List.mem_cons_of_mem _ member))⟩
  exact mono bench actions follows (fun _ => id)

/-- What the turns of a task carry on, and what is kept beside it, holds throughout a run in which
the task is minded, by induction over the actions.
-/
theorem Follows.turns {rule : Bench → Action → Prop} {number : Nat}
    {Holds : Bench → List Turn → Prop}
    (minds : ∀ bench action, rule bench action → Minds number bench action)
    (beside
      : ∀ bench own action, Holds bench own → rule bench action → action.names? ≠ some number
        → Holds (bench.step action).2 own)
    (poll
      : ∀ bench own task, Holds bench own → rule bench (.poll number)
        → bench.task? number = some task
        → Holds (bench.step (.poll number)).2 (own ++ [bench.turn (.poll number)]))
    {bench : Bench} {own : List Turn} {actions : List Action}
    (follows : Follows rule bench actions) (start : Holds bench own)
    : Holds (bench.run actions).2 (own ++ bench.turns number actions) := by
  induction actions generalizing bench own with
  | nil => simpa [Bench.turns, run] using start
  | cons action rest ih =>
      obtain ⟨ruled, follows⟩ := follows
      by_cases apart : action.names? = some number
      · rcases minds bench action ruled with other | ⟨rfl, waits⟩
        · exact absurd apart other
        · obtain ⟨task, waiting⟩ := Option.isSome_iff_exists.mp waits
          have later := ih follows (poll bench own task start ruled waiting)
          rw [List.append_assoc] at later
          simpa [Bench.turns, run, apart] using later
      · have later := ih follows (beside bench own action start ruled apart)
        simpa [Bench.turns, run, apart] using later

end Bench

end TwoWire
