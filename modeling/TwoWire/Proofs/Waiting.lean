import TwoWire.Proofs.Grounds

/-! Waiting for a bus and asking without waiting agree.

A poll of an operation is answered as the same operation would be that begins now. While the bus is
busy nothing is done, so an operation that only ever waited leaves no trace when it is dropped.
-/

namespace TwoWire

open Magnetometer

/-- The number of the task that an action begins, polls or drops. -/
def Action.names? : Action → Option Nat
  | .start _ number | .standby _ _ number | .sensor _ (.bringUp _ _ number) => number
  | .poll number | .drop number => some number
  | _ => none

-----------------------------------------------------------------------------------------
-- Beginning an operation
-----------------------------------------------------------------------------------------

namespace Master

/-- How an operation that begins fares: its slave is unknown, there is nothing to do, the bus is
busy, or it is served. Only a busy bus makes it wait.
-/
inductive Begins (master : Master) (operation : Operation)
    : Poll Claiming (Except MasterError Reply) × Master → Prop
  | refused {cause} (unknown : master.resolve operation.handle = .error cause)
    : Begins master operation (.ready (.error cause), master)
  | nothing {slave} (known : master.resolve operation.handle = .ok slave)
    (empty : operation.isEmpty = true)
    : Begins master operation (.ready (.ok .done), master)
  | waits {slave} (known : master.resolve operation.handle = .ok slave)
    (filled : operation.isEmpty = false) (failed : master.attempt slave operation = none)
    (busy : (master.bus slave.bus).isBusy = true)
    : Begins master operation (.pending ⟨operation, slave⟩, master)
  | served {slave reply next} (known : master.resolve operation.handle = .ok slave)
    (filled : operation.isEmpty = false)
    (accepted : master.attempt slave operation = some (reply, next))
    (free : (master.bus slave.bus).isBusy = false)
    : Begins master operation (.ready (.ok reply), next)

variable {master next : Master} {operation : Operation} {request : Request} {slave : Slave}

theorem resolve_ne_busy {handle : Handle}
    : master.resolve handle ≠ .error .busy := by
  unfold resolve
  split
  · simp
  · split <;> simp

/-- An attempt fails on a busy bus only. -/
theorem attempt_eq_none_iff (present : (master.peripheral? slave.bus).isSome = true)
    : master.attempt slave operation = none ↔ (master.bus slave.bus).isBusy = true := by
  obtain ⟨peripheral, here⟩ := Option.isSome_iff_exists.mp present
  have bus : (master.bus slave.bus).peripheral = some peripheral := here
  rw [Bus.isBusy, HandleCell.isSome_eq]
  cases held : (master.bus slave.bus).active.load with
  | none => simp [attempt, Bus.claim, HandleCell.trySet_of_load_eq_none held, bus]
  | some owner => simp [attempt, Bus.claim, HandleCell.trySet_of_load_eq_some held]

theorem begins_start (master : Master) (operation : Operation)
    : master.Begins operation (master.start operation) := by
  unfold start
  cases resolved : master.resolve operation.handle with
  | error cause => exact .refused resolved
  | ok slave =>
      obtain ⟨-, peripheral, here⟩ := get?_of_resolve resolved
      have attempts
          : master.attempt slave operation = none ↔ (master.bus slave.bus).isBusy = true :=
        attempt_eq_none_iff (Option.isSome_of_eq_some here)
      dsimp only
      cases empty : operation.isEmpty with
      | true => exact .nothing resolved empty
      | false =>
          cases attempted : master.attempt slave operation with
          | none => exact .waits resolved empty attempted (attempts.mp attempted)
          | some outcome =>
              refine .served resolved empty attempted (Bool.eq_false_iff.mpr (fun busy => ?_))
              simp [attempts.mpr busy] at attempted

/-- Asking without waiting fares like beginning to wait, but that a busy bus refuses it. -/
theorem tryTransfer_of_start {outcome : Poll Claiming (Except MasterError Reply)}
    (begun : master.start (.transfer request) = (outcome, next))
    : (∃ rest, outcome = .pending rest ∧ next = master
        ∧ master.tryTransfer request = (.error .busy, next))
      ∨ (∃ cause, outcome = .ready (.error cause) ∧ cause ≠ .busy
        ∧ master.tryTransfer request = (.error cause, next))
      ∨ outcome = .ready (.ok .done) ∧ master.tryTransfer request = (.ok (), next) := by
  have begins := master.begins_start (.transfer request)
  rw [begun] at begins
  cases begins with
  | @refused cause unknown =>
      have unknown : master.resolve request.handle = .error cause := unknown
      refine .inr (.inl ⟨cause, rfl, fun same => resolve_ne_busy (same ▸ unknown), ?_⟩)
      simp only [tryTransfer, unknown]
  | @nothing slave known empty =>
      have known : master.resolve request.handle = .ok slave := known
      have empty : request.window.length = 0 := of_decide_eq_true empty
      exact .inr (.inr ⟨rfl, by simp only [tryTransfer, known, empty, if_true]⟩)
  | @waits slave known filled failed busy =>
      have known : master.resolve request.handle = .ok slave := known
      have filled : request.window.length ≠ 0 := of_decide_eq_false filled
      exact .inl ⟨_, rfl, rfl, by simp only [tryTransfer, known, filled, failed, if_false]⟩
  | @served slave reply _ known filled accepted free =>
      have known : master.resolve request.handle = .ok slave := known
      have filled : request.window.length ≠ 0 := of_decide_eq_false filled
      obtain rfl := reply_of_attempt accepted
      exact .inr (.inr ⟨rfl, by simp only [tryTransfer, known, filled, accepted, if_false]⟩)

end Master

namespace Bench

variable {bench next : Bench} {operation : Operation} {number : Nat} {slave : Slave}
  {action : Action} {task : Task}

-----------------------------------------------------------------------------------------
-- Polls
-----------------------------------------------------------------------------------------

/-- The operation would have to wait now: asked for without waiting, the transfer would be refused
because of a busy bus, or the byte is one of a slave that is known and whose bus is busy.
-/
def Blocks (bench : Bench) : Operation → Prop
  | .transfer request => (bench.step (.tryTransfer request)).1.result = .masterError .busy
  | .readByte handle _ | .writeByte handle _ _ =>
    ∃ slave,
      bench.master.resolve handle = .ok slave
      ∧ (bench.master.bus slave.bus).isBusy = true

/-- A poll of an operation agrees with asking for it without waiting, in the same state. It waits
exactly if that would be refused because of a busy bus, and then nothing is there that was not
there before, but for the task that waits. Otherwise a transfer is answered as it would be then,
with all that it does.
-/
structure Agrees (bench : Bench) (operation : Operation) (number : Option Nat)
    (polled : Answer × Bench)
    : Prop where
  waits : polled.1.result = .pending ↔ bench.Blocks operation
  unchanged
    : polled.1.result = .pending
      → polled.1 = .ofResult .pending ∧ polled.2.vacate number = bench.vacate number
  completes
    : polled.1.result ≠ .pending
      → ∀ request, operation = .transfer request
        → polled
          = ((bench.step (.tryTransfer request)).1,
            (bench.step (.tryTransfer request)).2.vacate number)

/-- Of a bench that made room and kept a task only the task has to go to make room again. -/
theorem vacate_keep_vacate (bench : Bench) (task : Task) (number : Option Nat)
    : ((bench.vacate number).keep task number).vacate number = bench.vacate number := by
  cases number with
  | none => rfl
  | some number => simp [vacate, keep, discard]

/-- A bench makes room in the same way whatever its master is. -/
theorem vacate_with_master (bench : Bench) (number : Option Nat) (master : Master)
    : { bench.vacate number with master } = { bench with master }.vacate number := by
  cases number <;> rfl

/-- A transfer that begins agrees with asking for it without waiting, by cases on how it fares. -/
theorem agrees_start_transfer (bench : Bench) (request : Request) (number : Option Nat)
    : bench.Agrees (.transfer request) number
        (bench.step (.start (.transfer request) number)) := by
  simp only [step]
  cases begun : bench.master.start (.transfer request) with
  | mk outcome next =>
      have settled : { bench.vacate number with master := next }
          = { bench with master := next }.vacate number :=
        vacate_with_master bench number next
      rcases Master.tryTransfer_of_start begun with
        ⟨rest, rfl, rfl, tried⟩ | ⟨cause, rfl, other, tried⟩ | ⟨rfl, tried⟩
      · refine ⟨?_, fun _ => ⟨rfl, ?_⟩, by simp [settleOperation, Answer.ofResult]⟩
        · simp [settleOperation, Answer.ofResult, Blocks, step, tried, Result.ofMaster]
        · simp only [settleOperation, settled]
          exact vacate_keep_vacate bench _ number
      · refine ⟨?_, by simp [settleOperation, Answer.ofResult, Result.ofMaster], ?_⟩
        · simp [settleOperation, Answer.ofResult, Blocks, step, tried, Result.ofMaster, other]
        · rintro - _ ⟨⟩
          simp only [settleOperation, settled, step, tried]
          rfl
      · refine ⟨?_, by simp [settleOperation, Answer.ofResult, Result.ofMaster, Result.ofReply],
          ?_⟩
        · simp [settleOperation, Answer.ofResult, Blocks, step, tried, Result.ofMaster,
            Result.ofReply]
        · rintro - _ ⟨⟩
          simp only [settleOperation, settled, step, tried]
          rfl

/-- A single byte waits exactly while the bus of its slave is busy, by cases on how it fares. -/
theorem agrees_start_single (bench : Bench) (single : operation.IsSingle) (number : Option Nat)
    : bench.Agrees operation number (bench.step (.start operation number)) := by
  have blocks
      : bench.Blocks operation
        ↔ ∃ slave,
            bench.master.resolve operation.handle = .ok slave
            ∧ (bench.master.bus slave.bus).isBusy = true := by
    cases single <;> rfl
  have plain (request : Request) : operation ≠ .transfer request := by
    rintro rfl
    cases single
  have completes {polled : Answer × Bench}
      : polled.1.result ≠ .pending
        → ∀ request, operation = .transfer request
          → polled
            = ((bench.step (.tryTransfer request)).1,
              (bench.step (.tryTransfer request)).2.vacate number) :=
    fun _ request same => absurd same (plain request)
  simp only [step]
  cases begun : bench.master.start operation with
  | mk outcome next =>
      have begins := bench.master.begins_start operation
      rw [begun] at begins
      cases begins with
      | refused unknown =>
          refine ⟨?_, by simp [settleOperation, Answer.ofResult, Result.ofMaster], completes⟩
          simp [blocks, unknown, settleOperation, Answer.ofResult, Result.ofMaster]
      | nothing known empty => simp [single.isEmpty_eq] at empty
      | @waits slave known filled failed busy =>
          refine ⟨?_, fun _ => ⟨rfl, ?_⟩, completes⟩
          · simp [blocks, known, busy, settleOperation, Answer.ofResult]
          · simp only [settleOperation, vacate_with_master bench number bench.master]
            exact vacate_keep_vacate bench _ number
      | @served slave reply _ known filled accepted free =>
          have replied : Result.ofReply reply ≠ .pending := by cases reply <;> simp [Result.ofReply]
          refine ⟨?_, by simp [settleOperation, Answer.ofResult, Result.ofMaster, replied],
            completes⟩
          simp [blocks, known, free, settleOperation, Answer.ofResult, Result.ofMaster, replied]

theorem agrees_start (bench : Bench) (operation : Operation) (number : Option Nat)
    : bench.Agrees operation number (bench.step (.start operation number)) := by
  cases operation with
  | transfer request => exact bench.agrees_start_transfer request number
  | readByte => exact bench.agrees_start_single .readByte number
  | writeByte => exact bench.agrees_start_single .writeByte number

/-- A waiting operation is polled as if it began now, since its handle still stands for the slave
that it looked up.
-/
theorem Grounded.poll_eq_start (grounded : bench.Grounded) {rest : Claiming}
    (waiting : bench.task? number = some (.operation rest))
    : bench.step (.poll number) = bench.step (.start rest.operation (some number)) := by
  obtain ⟨found, filled⟩ := grounded.tasks _ (mem_tasks_of_task? waiting)
  have known : bench.master.resolve rest.operation.handle = .ok rest.slave := by
    rcases grounded.lawful.resolve rest.operation.handle with ⟨slave, there, known⟩ | ⟨past, -⟩
    · obtain rfl := Option.some.inj (found.symm.trans there)
      exact known
    · simp [SlaveTable.get?_eq_none_iff.mpr past] at found
  simp only [Bench.step, waiting, Master.start_eq_resume known filled]
  rfl

-----------------------------------------------------------------------------------------
-- Steps beside a task
-----------------------------------------------------------------------------------------

theorem discard_discard (bench : Bench) (number other : Nat)
    : (bench.discard number).discard other = (bench.discard other).discard number := by
  simp [discard, List.filter_filter, Bool.and_comm]

theorem discard_vacate (bench : Bench) (number : Nat) (other : Option Nat)
    : (bench.discard number).vacate other = (bench.vacate other).discard number := by
  cases other with
  | none => rfl
  | some other => exact bench.discard_discard number other

/-- What a bench does beside a task: it is answered in the same way when the task has been dropped,
the task can be dropped as well afterwards, and it is still there.
-/
structure Beside (bench : Bench) (number : Nat) (outcome cleared : Answer × Bench) : Prop where
  answer : cleared.1 = outcome.1
  drops : cleared.2 = outcome.2.discard number
  keeps : outcome.2.task? number = bench.task? number

/-- Entries of another number are looked up among the rest as among all, by induction over them. -/
theorem lookup_filter_of_ne {tasks : List (Nat × Task)} {other : Nat} (apart : other ≠ number)
    : (tasks.filter fun entry => entry.1 != number).lookup other = tasks.lookup other := by
  induction tasks with
  | nil => rfl
  | cons entry rest ih =>
      obtain ⟨place, task⟩ := entry
      by_cases gone : place = number
      · subst gone
        have missed : (other == place) = false := by simpa using apart
        simp [List.lookup_cons, missed, ih]
      · simp [gone, List.lookup_cons, ih]

theorem task?_discard_of_ne {other : Nat} (apart : other ≠ number)
    : (bench.discard number).task? other = bench.task? other :=
  lookup_filter_of_ne apart

theorem task?_vacate_of_ne {other : Option Nat} (apart : other ≠ some number)
    : (bench.vacate other).task? number = bench.task? number := by
  cases other with
  | none => rfl
  | some other => exact task?_discard_of_ne (fun same => apart (congrArg some same.symm))

/-- Keeping a task under another number can be done before or after a task is dropped. -/
theorem discard_keep (bench : Bench) (task : Task) {other : Option Nat}
    (apart : other ≠ some number)
    : (bench.keep task other).discard number = (bench.discard number).keep task other := by
  cases other with
  | none => rfl
  | some other =>
      have kept : other ≠ number := fun same => apart (congrArg some same)
      simp [keep, discard, kept]

theorem task?_keep_of_ne (bench : Bench) (task : Task) {other : Option Nat}
    (apart : other ≠ some number)
    : (bench.keep task other).task? number = bench.task? number := by
  cases other with
  | none => rfl
  | some other =>
      have missed : (number == other) = false := by
        simpa using fun same => apart (congrArg some same.symm)
      simp [keep, task?, List.lookup_cons, missed]

theorem beside_settleOperation (bench : Bench) {other : Option Nat}
    (apart : other ≠ some number)
    (progress : Poll Claiming (Except MasterError Reply) × Master)
    : bench.Beside number (bench.settleOperation other progress)
        ((bench.discard number).settleOperation other progress) := by
  obtain ⟨outcome, master⟩ := progress
  cases outcome with
  | ready => exact ⟨rfl, rfl, rfl⟩
  | pending rest =>
      exact ⟨rfl, ({ bench with master }.discard_keep (.operation rest) apart).symm,
        { bench with master }.task?_keep_of_ne (.operation rest) apart⟩

theorem beside_settleStandby (bench : Bench) {other : Option Nat} (apart : other ≠ some number)
    (progress : Poll Standby (Except MasterError Unit) × Delay × Master)
    : bench.Beside number (bench.settleStandby other progress)
        ((bench.discard number).settleStandby other progress) := by
  obtain ⟨outcome, delay, master⟩ := progress
  cases outcome with
  | ready => exact ⟨rfl, rfl, rfl⟩
  | pending rest =>
      exact ⟨rfl, ({ bench with master }.discard_keep (.standby rest delay) apart).symm,
        { bench with master }.task?_keep_of_ne (.standby rest delay) apart⟩

theorem beside_settleBringUp (bench : Bench) (index : Nat) {other : Option Nat}
    (apart : other ≠ some number)
    (progress : Poll BringUp (Except SensorError Unit) × Sensor × Delay × Master)
    : bench.Beside number (bench.settleBringUp index other progress)
        ((bench.discard number).settleBringUp index other progress) := by
  obtain ⟨outcome, sensor, delay, master⟩ := progress
  cases outcome with
  | ready => exact ⟨rfl, rfl, rfl⟩
  | pending rest =>
      let settled := { bench with master, sensors := bench.sensors.set index sensor }
      exact ⟨rfl, (settled.discard_keep (.bringUp index rest delay) apart).symm,
        settled.task?_keep_of_ne (.bringUp index rest delay) apart⟩

/-- Room that is made for another task changes nothing for this one. -/
theorem Beside.ofVacate {other : Option Nat} (apart : other ≠ some number)
    {outcome cleared : Answer × Bench}
    (beside : (bench.vacate other).Beside number outcome cleared)
    : bench.Beside number outcome cleared :=
  ⟨beside.answer, beside.drops, beside.keeps.trans (task?_vacate_of_ne apart)⟩

theorem beside_resume (bench : Bench) {other : Nat} (apart : other ≠ number) (task : Task)
    : bench.Beside number (bench.resume other task)
        ((bench.discard number).resume other task) := by
  have apart : some other ≠ some number := fun same => apart (Option.some.inj same)
  cases task with
  | operation rest => exact bench.beside_settleOperation apart _
  | standby rest delay => exact bench.beside_settleStandby apart _
  | bringUp index rest delay =>
      unfold resume
      have sensors : (bench.discard number).sensors = bench.sensors := rfl
      simp only [sensors]
      cases bench.sensors[index]? with
      | none => exact ⟨rfl, rfl, rfl⟩
      | some sensor => exact bench.beside_settleBringUp index apart _

theorem beside_withPeripheral (bench : Bench) (number : Nat) (id : BusId)
    (act : Peripheral → Result × Peripheral)
    : bench.Beside number (bench.withPeripheral id act)
        ((bench.discard number).withPeripheral id act) := by
  unfold withPeripheral
  have master : (bench.discard number).master = bench.master := rfl
  rw [master]
  cases bench.master.peripheral? id <;> exact ⟨rfl, rfl, rfl⟩

/-- An action that does not name a task does not depend on it, by cases on the action. -/
theorem beside_step (apart : action.names? ≠ some number)
    : bench.Beside number (bench.step action) ((bench.discard number).step action) := by
  cases action with
  | configureAll | register | tryTransfer | complete => exact ⟨rfl, rfl, rfl⟩
  | start operation other =>
      simp only [step, discard_vacate]
      exact ((bench.vacate other).beside_settleOperation apart _).ofVacate apart
  | standby handle schedule other =>
      simp only [step, discard_vacate]
      exact ((bench.vacate other).beside_settleStandby apart _).ofVacate apart
  | poll other =>
      have apart : other ≠ number := fun same => apart (congrArg some same)
      simp only [step, task?_discard_of_ne apart]
      cases bench.task? other with
      | none => exact ⟨rfl, rfl, rfl⟩
      | some task =>
          rw [discard_discard]
          have beside := (bench.discard other).beside_resume apart task
          exact ⟨beside.answer, beside.drops,
            beside.keeps.trans (task?_discard_of_ne (Ne.symm apart))⟩
  | drop other =>
      have apart : other ≠ number := fun same => apart (congrArg some same)
      simp only [step, task?_discard_of_ne apart]
      exact ⟨rfl, bench.discard_discard number other, task?_discard_of_ne (Ne.symm apart)⟩
  | advanceRing index =>
      have sensors : (bench.discard number).sensors = bench.sensors := rfl
      simp only [step, sensors]
      cases bench.sensors[index]? <;> exact ⟨rfl, rfl, rfl⟩
  | arrange id | forget id | raise id | manual id =>
      simp only [step]
      exact bench.beside_withPeripheral number id _
  | drain id => exact bench.beside_withPeripheral number id _
  | deliver id data =>
      simp only [step, deliver]
      have master : (bench.discard number).master = bench.master := rfl
      rw [master]
      cases bench.master.peripheral? id with
      | none => exact ⟨rfl, rfl, rfl⟩
      | some peripheral =>
          dsimp only
          cases peripheral.deliver bench.master.memory data <;> exact ⟨rfl, rfl, rfl⟩
  | sensor index action =>
      have sensors : (bench.discard number).sensors = bench.sensors := rfl
      simp only [step, sensors]
      cases bench.sensors[index]? with
      | none => exact ⟨rfl, rfl, rfl⟩
      | some sensor =>
          cases action with
          | bringUp table schedule other =>
              simp only [stepSensor, discard_vacate]
              exact ((bench.vacate other).beside_settleBringUp index apart _).ofVacate apart
          | register | enable | disable | dataReady | decode => exact ⟨rfl, rfl, rfl⟩

-----------------------------------------------------------------------------------------
-- Runs beside a task
-----------------------------------------------------------------------------------------

/-- The action does not name the task, or it polls the task and the task goes on waiting. -/
def Spectates (number : Nat) (bench : Bench) (action : Action) : Prop :=
  action.names? ≠ some number
  ∨ action = .poll number ∧ (bench.step action).1.result = .pending

/-- The actions that do not name a task, with what is kept for them. -/
def aside {α : Type} (number : Nat) (entries : List (Action × α)) : List (Action × α) :=
  entries.filter fun entry => entry.1.names? ≠ some number

/-- Nothing is different, but for the order in which the tasks are kept. -/
structure Unmoved (bench next : Bench) : Prop where
  master : next.master = bench.master
  sensors : next.sensors = bench.sensors
  tasks : ∀ number, next.task? number = bench.task? number

variable {rest : Claiming} {actions : List Action}

/-- Only an operation that waits is answered so, by cases on how far it got. -/
theorem pending_of_settleOperation {number : Option Nat}
    {progress : Poll Claiming (Except MasterError Reply) × Master}
    (pending : (bench.settleOperation number progress).1.result = .pending)
    : ∃ rest, progress.1 = .pending rest := by
  obtain ⟨outcome, master⟩ := progress
  match outcome with
  | .pending rest => exact ⟨rest, rfl⟩
  | .ready (.error cause) =>
      simp [settleOperation, Answer.ofResult, Result.ofMaster] at pending
  | .ready (.ok reply) =>
      cases reply <;>
        simp [settleOperation, Answer.ofResult, Result.ofMaster, Result.ofReply] at pending

/-- An operation that begins to wait is kept, and nothing else is done. -/
theorem start_of_pending
    (pending : (bench.step (.start operation (some number))).1.result = .pending)
    : ∃ slave,
        (bench.step (.start operation (some number))).2
        = (bench.discard number).keep (.operation ⟨operation, slave⟩) (some number) := by
  obtain ⟨rest, waits⟩ := pending_of_settleOperation pending
  obtain ⟨slave, -, -, begun⟩ := Master.start_of_pending waits
  refine ⟨slave, ?_⟩
  simp only [step, begun]
  rfl

/-- A poll of an operation that goes on waiting takes the task out and keeps it again. -/
theorem poll_of_pending (waiting : bench.task? number = some (.operation rest))
    (pending : (bench.step (.poll number)).1.result = .pending)
    : (bench.step (.poll number)).2
      = (bench.discard number).keep (.operation rest) (some number) := by
  simp only [step, waiting, resume] at pending ⊢
  obtain ⟨later, waits⟩ := pending_of_settleOperation pending
  rw [Master.resume_of_pending waits]
  rfl

theorem task?_keep_self (bench : Bench) (task : Task) (number : Nat)
    : (bench.keep task (some number)).task? number = some task := by
  simp [keep, task?]

theorem unmoved_poll (waiting : bench.task? number = some (.operation rest))
    (pending : (bench.step (.poll number)).1.result = .pending)
    : bench.Unmoved (bench.step (.poll number)).2 := by
  rw [poll_of_pending waiting pending]
  refine ⟨rfl, rfl, fun other => ?_⟩
  by_cases own : other = number
  · subst own
    rw [task?_keep_self, waiting]
  · have apart : some number ≠ some other := fun same => own (Option.some.inj same).symm
    rw [task?_keep_of_ne _ _ apart, task?_discard_of_ne own]

/-- What happens beside an operation that goes on waiting happens in the same way without it, by
induction over the actions.
-/
theorem beside_run (waiting : bench.task? number = some (.operation rest))
    (follows : Follows (Spectates number) bench actions)
    : (bench.run actions).2.task? number = some (.operation rest)
      ∧ (bench.run actions).2.discard number
        = ((bench.discard number).run
            (actions.filter fun action => action.names? ≠ some number)).2
      ∧ aside number (actions.zip (bench.run actions).1)
        = (actions.filter fun action => action.names? ≠ some number).zip
            ((bench.discard number).run
              (actions.filter fun action => action.names? ≠ some number)).1 := by
  induction actions generalizing bench with
  | nil => exact ⟨waiting, rfl, rfl⟩
  | cons action later ih =>
      obtain ⟨apart | ⟨rfl, pending⟩, follows⟩ := follows
      · have beside : bench.Beside number _ ((bench.discard number).step action) :=
          beside_step apart
        have kept
            : (action :: later).filter (fun action => action.names? ≠ some number)
              = action :: later.filter fun action => action.names? ≠ some number :=
          List.filter_cons_of_pos (by simpa using apart)
        obtain ⟨stays, last, answers⟩ := ih (beside.keeps.trans waiting) follows
        rw [kept]
        refine ⟨stays, ?_, ?_⟩
        · simp only [run, beside.drops]
          exact last
        · simp only [run, beside.drops, beside.answer, List.zip_cons_cons, aside]
          rw [List.filter_cons_of_pos (by simpa using apart)]
          exact congrArg _ answers
      · have unmoved := unmoved_poll waiting pending
        obtain ⟨stays, last, answers⟩ := ih ((unmoved.tasks number).trans waiting) follows
        have left
            : (.poll number :: later).filter (fun action => action.names? ≠ some number)
              = later.filter fun action => action.names? ≠ some number :=
          List.filter_cons_of_neg (by simp [Action.names?])
        have polled : (bench.step (.poll number)).2.discard number = bench.discard number := by
          rw [poll_of_pending waiting pending]
          exact bench.vacate_keep_vacate _ (some number)
        rw [polled] at last answers
        rw [left]
        refine ⟨stays, last, ?_⟩
        simp only [run, List.zip_cons_cons, aside]
        rw [List.filter_cons_of_neg (by simp [Action.names?])]
        exact answers

/-- A task of a number that is free is dropped without any effect. -/
theorem discard_of_free (free : bench.task? number = none)
    : bench.discard number = bench := by
  have missing := List.lookup_eq_none_iff.mp free
  have same : bench.tasks.filter (fun entry => entry.1 != number) = bench.tasks := by
    refine List.filter_eq_self.mpr (fun entry member => ?_)
    rw [bne_comm]
    exact missing entry member
  rw [discard, same]

-----------------------------------------------------------------------------------------
-- Every run
-----------------------------------------------------------------------------------------

/-- In every state that a run leads to, the first poll of an operation agrees with asking for it
without waiting. So does each later poll, however many waited in vain and whatever else was done
between them, and a poll that waits changes nothing. If the operation is dropped then, all else is
and was answered as if it had never begun.
-/
theorem polls_agree (capacity : Fin 255) (paces : PerBus (Option Pace))
    (buffers : List (List UInt8)) (sensors : List (Config × Nat)) (actions : List Action)
    (operation : Operation) (number : Option Nat)
    : let bench := ((assemble capacity paces buffers sensors).run actions).2
      let begun := bench.step (.start operation number)
      bench.Agrees operation number begun
      ∧ ∀ task, number = some task → begun.1.result = .pending
        → ∀ between, Follows (Spectates task) begun.2 between
          → let waited := begun.2.run between
            let others := between.filter fun action => action.names? ≠ some task
            let without := (bench.step (.drop task)).2.run others
            waited.2.Agrees operation (some task) (waited.2.step (.poll task))
            ∧ ((waited.2.step (.poll task)).1.result = .pending
              → waited.2.Unmoved (waited.2.step (.poll task)).2)
            ∧ (waited.2.step (.drop task)).2 = without.2
            ∧ aside task (between.zip waited.1) = others.zip without.1
            ∧ (bench.task? task = none → (bench.step (.drop task)).2 = bench) := by
  have grounded := (grounded_assemble capacity paces buffers sensors).run actions
  generalize ((assemble capacity paces buffers sensors).run actions).2 = bench at grounded ⊢
  refine ⟨bench.agrees_start operation number, ?_⟩
  rintro task rfl pending between follows
  obtain ⟨slave, begun⟩ := start_of_pending pending
  have waiting
      : (bench.step (.start operation (some task))).2.task? task
        = some (.operation ⟨operation, slave⟩) := by
    rw [begun, task?_keep_self]
  obtain ⟨stays, last, answers⟩ := beside_run waiting follows
  have dropped
      : (bench.step (.start operation (some task))).2.discard task = bench.discard task := by
    rw [begun]
    exact bench.vacate_keep_vacate _ (some task)
  rw [dropped] at last answers
  refine ⟨?_, unmoved_poll stays, last, answers, discard_of_free⟩
  have later := (grounded.step (.start operation (some task))).run between
  rw [later.poll_eq_start stays]
  exact agrees_start _ operation (some task)

/-- A reception waits while another one has the bus, also when it is polled, and it is served when
the other one has completed. If it is dropped instead, it has left no trace.
-/
theorem polls_agree_while_waiting
    : let request : Request := ⟨.read, ⟨0⟩, ⟨.bits8, 0x01⟩, ⟨.buffer 0, 0, 4⟩⟩
      let bench :=
        ((assemble 2 ⟨some .instant, none, none⟩ [[0, 0, 0, 0]] []).run
          [.register ⟨.i2c1, 0x50, .none⟩, .tryTransfer request]).2
      let begun := bench.step (.start (.transfer request) (some 3))
      let others : List Action := [.deliver .i2c1 [1, 2, 3, 4], .complete .i2c1 .rx]
      let waited := begun.2.run (.poll 3 :: others)
      begun.1.result = .pending
      ∧ waited.2.Agrees (.transfer request) (some 3) (waited.2.step (.poll 3))
      ∧ (waited.2.step (.poll 3)).1.result = .done
      ∧ (waited.2.step (.drop 3)).2 = (bench.run others).2 := by
  intro request bench begun others waited
  have pending : begun.1.result = .pending := by decide
  have spectates : Follows (Spectates 3) begun.2 (.poll 3 :: others) :=
    ⟨.inr ⟨rfl, by decide⟩, .inl (by simp [Action.names?]), .inl (by simp [Action.names?]),
      True.intro⟩
  obtain ⟨-, later⟩ :=
    polls_agree 2 ⟨some .instant, none, none⟩ [[0, 0, 0, 0]] []
      [.register ⟨.i2c1, 0x50, .none⟩, .tryTransfer request] (.transfer request) (some 3)
  obtain ⟨agrees, -, dropped, -, untouched⟩ := later 3 rfl pending _ spectates
  rw [untouched rfl] at dropped
  exact ⟨pending, agrees, by decide +kernel, dropped⟩

end Bench

end TwoWire
