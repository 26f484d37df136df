import TwoWire.Proofs.Registration
import TwoWire.Proofs.Runs

/-! What a bench knows whatever is done with it: its table is lawful, and every task that waits for
a bus knows the slave of its handle.

No rule for clients is assumed. Only registrations change the table, and they only add to it, so
what a task looked up when it began stays right.
-/

namespace TwoWire

open Magnetometer

-----------------------------------------------------------------------------------------
-- Operations that begin or go on
-----------------------------------------------------------------------------------------

namespace Master

variable {master : Master} {operation : Operation} {claiming rest : Claiming} {slave : Slave}

/-- An operation that waits goes on waiting without having done anything. -/
theorem resume_of_pending (waits : (master.resume claiming).1 = .pending rest)
    : master.resume claiming = (.pending claiming, master) := by
  unfold resume at waits ⊢
  cases attempted : master.attempt claiming.slave claiming.operation with
  | none => rfl
  | some outcome => simp [attempted] at waits

/-- Once its slave is looked up, an operation that is not empty begins as it would go on. -/
theorem start_eq_resume (resolved : master.resolve operation.handle = .ok slave)
    (filled : operation.isEmpty = false)
    : master.start operation = master.resume ⟨operation, slave⟩ := by
  simp only [start, resolved, filled, Bool.false_eq_true, if_false]
  rfl

/-- An operation that has to wait looked up its slave and did nothing else. -/
theorem start_of_pending (waits : (master.start operation).1 = .pending rest)
    : ∃ slave,
        master.resolve operation.handle = .ok slave
        ∧ operation.isEmpty = false
        ∧ master.start operation = (.pending ⟨operation, slave⟩, master) := by
  cases resolved : master.resolve operation.handle with
  | error cause => simp [start, resolved] at waits
  | ok slave =>
      cases filled : operation.isEmpty with
      | true => simp [start, resolved, filled] at waits
      | false =>
          rw [start_eq_resume resolved filled] at waits ⊢
          exact ⟨slave, rfl, rfl, resume_of_pending waits⟩

theorem steady_start (master : Master) (operation : Operation)
    : master.Steady (master.start operation).2 := by
  have settles
      : master.Settles .client (fun _ => True) operation (master.start operation) :=
    master.settles_start True.intro
  exact settles.serves.steady

end Master

-----------------------------------------------------------------------------------------
-- What tasks know
-----------------------------------------------------------------------------------------

/-- The slave that a task looked up is the one in the table. An operation waits only if it moves at
least one byte, and a bring-up waits with single bytes.
-/
def Task.Informed (slaves : SlaveTable) : Task → Prop
  | .operation rest =>
    slaves.get? rest.operation.handle = some rest.slave ∧ rest.operation.isEmpty = false
  | .standby .. => True
  | .bringUp _ rest _ =>
    ∀ claiming, rest.wait = .bus claiming
      → claiming.operation.IsSingle
        ∧ slaves.get? claiming.operation.handle = some claiming.slave

/-- What a task knows stays right in a table that still knows every slave. -/
theorem Task.Informed.mono {task : Task} {slaves more : SlaveTable}
    (informed : task.Informed slaves)
    (known : ∀ {handle slave}, slaves.get? handle = some slave → more.get? handle = some slave)
    : task.Informed more := by
  cases task with
  | operation rest => exact ⟨known informed.1, informed.2⟩
  | standby => exact True.intro
  | bringUp index rest delay =>
      intro claiming waits
      obtain ⟨single, found⟩ := informed claiming waits
      exact ⟨single, known found⟩

namespace Bench

/-- Slaves and peripherals stay, and a task that is new knows its slave. -/
structure Carries (bench next : Bench) : Prop where
  steady : bench.master.Steady next.master
  tasks : ∀ entry ∈ next.tasks, entry ∈ bench.tasks ∨ entry.2.Informed bench.master.slaves

variable {bench middle next : Bench} {action : Action} {number : Option Nat}

theorem Carries.refl (bench : Bench)
    : bench.Carries bench :=
  ⟨.refl _, fun _ old => .inl old⟩

theorem Carries.trans (head : bench.Carries middle) (tail : middle.Carries next)
    : bench.Carries next where
  steady := head.steady.trans tail.steady
  tasks entry member := by
    rcases tail.tasks entry member with old | informed
    · exact head.tasks entry old
    · exact .inr (head.steady.slaves ▸ informed)

theorem carries_discard (bench : Bench) (number : Nat)
    : bench.Carries (bench.discard number) :=
  ⟨.refl _, fun _ member => .inl (mem_tasks_discard member)⟩

theorem carries_vacate (bench : Bench) (number : Option Nat)
    : bench.Carries (bench.vacate number) where
  steady := by
    rw [vacate_master]
    exact .refl _
  tasks _ member := .inl (mem_tasks_vacate member)

/-- A master that moves on by itself carries its bench. -/
theorem carries_of_steady {master : Master} {sensors : List Sensor}
    (steady : bench.master.Steady master)
    : bench.Carries { bench with master, sensors } :=
  ⟨steady, fun _ old => .inl old⟩

theorem carries_settleOperation
    {progress : Poll Claiming (Except MasterError Reply) × Master}
    (steady : bench.master.Steady progress.2)
    (informed
      : ∀ rest, progress.1 = .pending rest
        → (Task.operation rest).Informed bench.master.slaves)
    : bench.Carries (bench.settleOperation number progress).2 where
  steady := by
    rw [master_settleOperation]
    exact steady
  tasks entry member := by
    obtain ⟨outcome, master⟩ := progress
    cases outcome with
    | ready => exact .inl member
    | pending rest =>
        rcases mem_tasks_keep member with old | new
        · exact .inl old
        · exact .inr (new ▸ informed rest rfl)

theorem carries_settleStandby
    {progress : Poll Standby (Except MasterError Unit) × Delay × Master}
    (steady : bench.master.Steady progress.2.2)
    : bench.Carries (bench.settleStandby number progress).2 where
  steady := by
    rw [master_settleStandby]
    exact steady
  tasks entry member := by
    obtain ⟨outcome, delay, master⟩ := progress
    cases outcome with
    | ready => exact .inl member
    | pending rest =>
        rcases mem_tasks_keep member with old | new
        · exact .inl old
        · exact .inr (new ▸ True.intro)

theorem carries_settleBringUp {index : Nat} {sensor : Sensor} {progress : Progress}
    (goes : BringUp.Goes bench.master progress)
    : bench.Carries
        (bench.settleBringUp index number (progress.1, sensor, progress.2)).2 where
  steady := by
    rw [master_settleBringUp]
    exact goes.serves.steady
  tasks entry member := by
    obtain ⟨outcome, delay, master⟩ := progress
    cases outcome with
    | ready => exact .inl member
    | pending rest =>
        rcases mem_tasks_keep member with old | new
        · exact .inl old
        · rw [new]
          refine .inr (fun claiming waits => ?_)
          obtain ⟨single, known⟩ := goes.waits rest claiming rfl waits
          exact ⟨single, (congrArg (SlaveTable.get? · _) goes.serves.slaves).symm.trans known⟩

-----------------------------------------------------------------------------------------
-- Actions
-----------------------------------------------------------------------------------------

/-- The table of slaves is lawful, and every task knows its slave. -/
structure Grounded (bench : Bench) : Prop where
  lawful : bench.master.Lawful
  tasks : ∀ entry ∈ bench.tasks, entry.2.Informed bench.master.slaves

theorem Grounded.carried (grounded : bench.Grounded) (carries : bench.Carries next)
    : next.Grounded where
  lawful := grounded.lawful.steady carries.steady
  tasks entry member := by
    rw [carries.steady.slaves]
    exact (carries.tasks entry member).elim (grounded.tasks entry) id

/-- A task goes on from where it waited, by cases on what it is. -/
theorem carries_resume (bench : Bench) {task : Task}
    (informed : task.Informed bench.master.slaves) (number : Nat)
    : bench.Carries (bench.resume number task).2 := by
  cases task with
  | operation rest =>
      refine carries_settleOperation (bench.master.steady_resume rest) ?_
      intro waiting waits
      rw [Master.resume_of_pending waits] at waits
      cases waits
      exact informed
  | standby rest delay => exact carries_settleStandby (bench.master.steady_resumeStandby rest delay)
  | bringUp index rest delay =>
      simp only [resume]
      cases bench.sensors[index]? with
      | none => exact .refl bench
      | some sensor => exact carries_settleBringUp (BringUp.goes_resume informed delay)

/-- An action that registers nothing leaves the slaves alone, by cases on the action. -/
theorem Grounded.carries (grounded : bench.Grounded) (plain : bench.registrant action = none)
    : bench.Carries (bench.step action).2 := by
  cases action with
  | register slave => simp [registrant] at plain
  | configureAll => exact carries_of_steady bench.master.steady_configureAll
  | tryTransfer request => exact carries_of_steady (bench.master.steady_tryTransfer request)
  | start operation number =>
      refine (bench.carries_vacate number).trans (carries_settleOperation ?_ ?_)
      · rw [vacate_master]
        exact bench.master.steady_start operation
      · intro rest waits
        obtain ⟨slave, resolved, filled, begun⟩ := Master.start_of_pending waits
        rw [begun] at waits
        cases waits
        rw [vacate_master]
        exact ⟨(Master.get?_of_resolve resolved).1, filled⟩
  | standby handle schedule number =>
      refine (bench.carries_vacate number).trans (carries_settleStandby ?_)
      rw [vacate_master]
      exact bench.master.steady_startStandby handle _
  | poll number =>
      simp only [step]
      cases polled : bench.task? number with
      | none => exact .refl bench
      | some task =>
          have informed := grounded.tasks (number, task) (mem_tasks_of_task? polled)
          exact (bench.carries_discard number).trans
            ((bench.discard number).carries_resume informed number)
  | drop number => exact bench.carries_discard number
  | complete bus stream => exact carries_of_steady (bench.master.steady_complete bus stream)
  | advanceRing index =>
      simp only [step]
      cases bench.sensors[index]? with
      | none => exact .refl bench
      | some sensor => exact carries_of_steady ⟨rfl, fun _ => rfl⟩
  | arrange bus | forget bus | drain bus | raise bus | manual bus =>
      exact ⟨bench.steady_withPeripheral bus _,
        fun _ old => .inl (bench.tasks_withPeripheral bus _ ▸ old)⟩
  | deliver bus data =>
      exact ⟨bench.steady_deliver bus data,
        fun _ old => .inl (bench.tasks_deliver bus data ▸ old)⟩
  | sensor index action =>
      simp only [step]
      cases here : bench.sensors[index]? with
      | none => exact .refl bench
      | some sensor =>
          cases action with
          | register =>
              have known : sensor.state ≠ .uninitialized := by
                simpa [registrant, here] using plain
              simp only [stepSensor, Sensor.register, known, if_false]
              exact carries_of_steady (.refl _)
          | bringUp table schedule number =>
              have goes
                  : BringUp.Goes (bench.vacate number).master
                      ((sensor.startBringUp table (.new schedule) bench.master).1,
                        (sensor.startBringUp table (.new schedule) bench.master).2.2) := by
                rw [vacate_master]
                exact sensor.goes_startBringUp table (.new schedule) bench.master
              exact (bench.carries_vacate number).trans (carries_settleBringUp goes)
          | enable | disable | decode => exact carries_of_steady (.refl _)
          | dataReady => exact carries_of_steady (sensor.steady_dataReady bench.master)

/-- An action that asks to register a slave does nothing else to the master or to the tasks. -/
theorem step_of_registrant {slave : Slave} (asked : bench.registrant action = some slave)
    : (bench.step action).2.master = (bench.master.register slave).2
      ∧ (bench.step action).2.tasks = bench.tasks := by
  cases action with
  | register other =>
      obtain rfl := Option.some.inj asked
      exact ⟨rfl, rfl⟩
  | sensor index action =>
      cases action with
      | register =>
          simp only [registrant, Option.bind_eq_some_iff, Option.ite_none_right_eq_some,
            Option.some.injEq] at asked
          obtain ⟨sensor, here, new, rfl⟩ := asked
          simp only [step, here, stepSensor, Sensor.register, new, if_true]
          obtain ⟨outcome, master⟩ := bench.master.register sensor.slave
          cases outcome <;> exact ⟨rfl, rfl⟩
      | bringUp | enable | disable | dataReady | decode => simp [registrant] at asked
  | _ => simp [registrant] at asked

/-- Whatever is done, the bench stays grounded: it registers a slave, or it leaves the slaves
alone.
-/
theorem Grounded.step (grounded : bench.Grounded) (action : Action)
    : (bench.step action).2.Grounded := by
  cases asked : bench.registrant action with
  | none => exact grounded.carried (grounded.carries asked)
  | some slave =>
      obtain ⟨master, tasks⟩ := step_of_registrant asked
      constructor
      · rw [master]
        exact grounded.lawful.register slave
      · intro entry member
        rw [master]
        exact (grounded.tasks entry (tasks ▸ member)).mono Master.known_register

/-- A run keeps the bench grounded, by induction over its actions. -/
theorem Grounded.run (grounded : bench.Grounded) (actions : List Action)
    : (bench.run actions).2.Grounded := by
  induction actions generalizing bench with
  | nil => exact grounded
  | cons action rest ih => exact ih (grounded.step action)

theorem grounded_assemble (capacity : Fin 255) (paces : PerBus (Option Pace))
    (buffers : List (List UInt8)) (sensors : List (Config × Nat))
    : (assemble capacity paces buffers sensors).Grounded where
  lawful := ⟨Nat.zero_le _, .nil, by simp [assemble, Bench.new, Master.new, SlaveTable.empty]⟩
  tasks _ member := absurd member List.not_mem_nil

end Bench

end TwoWire
