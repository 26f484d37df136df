import TwoWire.Proofs.Registry
import TwoWire.Proofs.Waiting

/-! What is refused leaves no trace.

A request that fails has changed nothing, neither of the master with its buses and its memory nor of
the sensors, and nobody was told. Two failures come later than that: a slave that the table refuses
has had its bus brought up, and a probe that gives up has used the bus of its slave and made it
idle.
-/

namespace TwoWire

open Magnetometer

/-- The slave that a standby probe waits for. -/
def Standby.slave : Standby → Slave
  | claiming _ slave | pausing slave _ => slave

/-- The transfer that an action asks for, with or without waiting. -/
def Action.request? : Action → Option Request
  | .tryTransfer request | .start (.transfer request) _ => some request
  | _ => none

namespace Master

variable {master middle next : Master} {slave : Slave} {cause : MasterError} {request : Request}
  {operation : Operation} {handle : Handle} {delay : Delay}

-----------------------------------------------------------------------------------------
-- Requests that fail
-----------------------------------------------------------------------------------------

/-- A transfer that does not wait and fails was found wanting before it claimed its bus. -/
theorem tryTransfer_of_error (failed : (master.tryTransfer request).1 = .error cause)
    : (master.tryTransfer request).2 = master := by
  unfold tryTransfer at failed ⊢
  cases resolved : master.resolve request.handle with
  | error cause => rfl
  | ok slave =>
      simp only [resolved] at failed ⊢
      by_cases empty : request.window.length = 0
      · simp only [empty, if_true]
      · simp only [empty, if_false] at failed ⊢
        cases attempted : master.attempt slave (.transfer request) with
        | none => rfl
        | some outcome => simp [attempted] at failed

/-- A transfer of nothing does nothing, also for an unknown slave. -/
theorem tryTransfer_of_empty (empty : request.window.length = 0)
    : (master.tryTransfer request).2 = master := by
  unfold tryTransfer
  cases master.resolve request.handle with
  | error cause => rfl
  | ok slave => simp only [empty, if_true]

/-- An operation that begins fails for want of its slave only. -/
theorem start_of_error (failed : (master.start operation).1 = .ready (.error cause))
    : (master.start operation).2 = master := by
  have begins := master.begins_start operation
  generalize master.start operation = progress at begins failed ⊢
  cases begins with
  | refused => rfl
  | nothing | waits | served => simp at failed

/-- A probe that fails without having given up did not get as far as its bus. -/
theorem startStandby_of_error
    (failed : (master.startStandby handle delay).1 = .ready (.error cause))
    (early : cause ≠ .standbyTimeout)
    : (master.startStandby handle delay).2.2 = master := by
  unfold startStandby at failed ⊢
  cases resolved : master.resolve handle with
  | error cause => rfl
  | ok slave =>
      simp only [resolved] at failed
      exact absurd (claimStandby_error failed) early

theorem resumeStandby_error {standby : Standby}
    (failed : (master.resumeStandby standby delay).1 = .ready (.error cause))
    : cause = .standbyTimeout := by
  cases standby with
  | claiming handle slave => exact claimStandby_error failed
  | pausing slave paused =>
      simp only [resumeStandby] at failed
      split at failed
      · simp at failed
      · exact settleStandby_error failed

-----------------------------------------------------------------------------------------
-- Slaves that are turned away
-----------------------------------------------------------------------------------------

/-- What a slave that is turned away leaves behind. The table is asked last, when the bus has been
brought up.
-/
inductive TurnsAway (master : Master) (slave : Slave) : MasterError → Master → Prop
  | address : TurnsAway master slave (.invalidAddress slave.address) master
  | bus : TurnsAway master slave .unknownBus master
  | table {reason} (late : reason = .alreadyRegistered ∨ reason = .tableFull)
    (ready : (master.bus slave.bus).configured = true)
    : TurnsAway master slave reason master
  | tableFirst {reason peripheral} (late : reason = .alreadyRegistered ∨ reason = .tableFull)
    (new : (master.bus slave.bus).configured = false)
    (here : master.peripheral? slave.bus = some peripheral)
    : TurnsAway master slave reason
        (master.setBus slave.bus
          { master.bus slave.bus with
            configured := true
            peripheral := some peripheral.configure })

@[simp] theorem setBus_bus (master : Master) (id : BusId)
    : master.setBus id (master.bus id) = master := by
  simp [setBus, bus]

/-- A bus that has a peripheral is brought up unless it was brought up before. -/
theorem turnsAway_configureOnce {peripheral : Peripheral}
    (late : cause = .alreadyRegistered ∨ cause = .tableFull)
    (here : master.peripheral? slave.bus = some peripheral)
    : master.TurnsAway slave cause
        (master.setBus slave.bus (master.bus slave.bus).configureOnce) := by
  have present : (master.bus slave.bus).peripheral = some peripheral := here
  unfold Bus.configureOnce
  simp only [present]
  cases ready : (master.bus slave.bus).configured with
  | true =>
      simp only [if_true, setBus_bus]
      exact .table late ready
  | false =>
      simp only [Bool.false_eq_true, if_false]
      exact .tableFirst late ready here

/-- The causes are tried in their order, and only the table comes after the bus. -/
theorem turnsAway_register (failed : (master.register slave).1 = .error cause)
    : master.TurnsAway slave cause (master.register slave).2 := by
  unfold register at failed ⊢
  by_cases high : 0x7F < slave.address
  · simp only [high, if_true, Except.error.injEq] at failed ⊢
    exact failed ▸ .address
  · simp only [high, if_false] at failed ⊢
    cases here : master.peripheral? slave.bus with
    | none =>
        simp only [here, Option.isNone_none, if_true, Except.error.injEq] at failed ⊢
        exact failed ▸ .bus
    | some peripheral =>
        simp only [here, Option.isNone_some, Bool.false_eq_true, if_false] at failed ⊢
        cases inserted : master.slaves.insert slave with
        | ok entry => simp [inserted] at failed
        | error reason =>
            simp only [inserted, Except.error.injEq] at failed ⊢
            subst failed
            refine turnsAway_configureOnce ?_ here
            unfold SlaveTable.insert at inserted
            split at inserted
            · exact .inl (Except.error.inj inserted).symm
            · split at inserted
              · exact .inr (Except.error.inj inserted).symm
              · simp at inserted

-----------------------------------------------------------------------------------------
-- Polls of a probe
-----------------------------------------------------------------------------------------

/-- Nothing is different but one bus. -/
def SameBut (master : Master) (id : BusId) (next : Master) : Prop :=
  next = master.setBus id (next.bus id)

@[simp] theorem bus_setBus_self (master : Master) (id : BusId) (state : Bus)
    : (master.setBus id state).bus id = state := by
  simp [setBus, bus]

theorem SameBut.refl (master : Master) (id : BusId)
    : master.SameBut id master :=
  (master.setBus_bus id).symm

theorem sameBut_setBus (master : Master) (id : BusId) (state : Bus)
    : master.SameBut id (master.setBus id state) := by
  rw [SameBut, bus_setBus_self]

theorem SameBut.trans {id : BusId} (head : master.SameBut id middle)
    (tail : middle.SameBut id next)
    : master.SameBut id next := by
  rw [SameBut] at head tail ⊢
  rw [head] at tail
  simpa [setBus] using tail

/-- What one poll of a probe does: it uses the bus of its slave only, waits for the same slave, and
leaves the bus idle when it is over.
-/
structure Polls (master : Master) (slave : Slave)
    (progress : Poll Standby (Except MasterError Unit) × Delay × Master)
    : Prop where
  same : master.SameBut slave.bus progress.2.2
  waits : ∀ rest, progress.1 = .pending rest → rest.slave = slave
  ends : ∀ answer, progress.1 = .ready answer → (progress.2.2.bus slave.bus).isBusy = false

/-- A probe that has its bus pauses on it or gives it back. -/
theorem polls_settleStandby (master : Master) (slave : Slave)
    (progress : Poll Retry.Paused Bool × Peripheral × Delay)
    : master.Polls slave (master.settleStandby slave progress) := by
  obtain ⟨outcome, peripheral, delay⟩ := progress
  cases outcome with
  | pending paused =>
      refine ⟨master.sameBut_setBus slave.bus _, ?_, by simp [settleStandby]⟩
      intro rest waiting
      cases waiting
      rfl
  | ready acknowledged =>
      refine ⟨master.sameBut_setBus slave.bus _, by simp [settleStandby], ?_⟩
      rintro answer -
      simp [settleStandby, Bus.release, HandleCell.take, Bus.isBusy, HandleCell.isSome,
        HandleCell.empty]

/-- A probe that does not get its bus goes on waiting, and one that gets it has the whole poll on
it.
-/
theorem polls_claimStandby (master : Master) (handle : Handle) (slave : Slave) (delay : Delay)
    : master.Polls slave (master.claimStandby handle slave delay) := by
  unfold claimStandby
  split
  · rename_i bus peripheral _ _
    have polls := (master.setBus slave.bus bus).polls_settleStandby slave
      (Retry.run Standby.interval (·.probe slave.address) Standby.trials peripheral delay)
    exact ⟨(master.sameBut_setBus slave.bus bus).trans polls.same, polls.waits, polls.ends⟩
  · refine ⟨.refl master _, ?_, by simp⟩
    intro rest waiting
    cases waiting
    rfl

theorem polls_resumeStandby (master : Master) (standby : Standby) (delay : Delay)
    : master.Polls standby.slave (master.resumeStandby standby delay) := by
  cases standby with
  | claiming handle slave => exact master.polls_claimStandby handle slave delay
  | pausing slave paused =>
      simp only [resumeStandby, Standby.slave]
      cases here : master.peripheral? slave.bus with
      | none =>
          refine ⟨.refl master _, ?_, by simp⟩
          intro rest waiting
          cases waiting
          rfl
      | some peripheral => exact master.polls_settleStandby slave _

end Master

/-- A sensor that fails to register stays as it was. -/
theorem Magnetometer.Sensor.register_of_error {sensor : Sensor} {master : Master}
    {reason : SensorError} (failed : (sensor.register master).1 = .error reason)
    : (sensor.register master).2.1 = sensor
      ∧ (reason = .invalidState → (sensor.register master).2.2 = master) := by
  unfold Sensor.register at failed ⊢
  by_cases new : sensor.state = .uninitialized
  · simp only [new, if_true] at failed ⊢
    generalize master.register sensor.slave = progress at failed ⊢
    obtain ⟨outcome, next⟩ := progress
    cases outcome with
    | ok handle => simp at failed
    | error cause =>
        obtain rfl : .master cause = reason := by simpa using failed
        exact ⟨rfl, by simp⟩
  · simp only [new, if_false]
    exact ⟨True.intro, fun _ => True.intro⟩

namespace Bench

variable {bench : Bench} {action : Action} {number : Option Nat} {slave : Slave}
  {cause : MasterError}

-----------------------------------------------------------------------------------------
-- Actions that fail
-----------------------------------------------------------------------------------------

/-- Nothing has happened: nobody was told, and all is as it was but for a task that had to make
room.
-/
structure Traceless (bench : Bench) (number : Option Nat) (outcome : Answer × Bench) : Prop where
  same : outcome.2 = bench.vacate number
  untold : outcome.1.notice = none

/-- A bench that makes room and goes on with the same master has only made room. -/
theorem vacate_same (bench : Bench) (number : Option Nat)
    : { bench.vacate number with master := bench.master } = bench.vacate number := by
  cases number <;> rfl

/-- Only an operation that failed is answered with a cause, by cases on how far it got. -/
theorem error_of_settleOperation {progress : Poll Claiming (Except MasterError Reply) × Master}
    (failed : (bench.settleOperation number progress).1.result = .masterError cause)
    : progress.1 = .ready (.error cause) := by
  obtain ⟨outcome, master⟩ := progress
  match outcome with
  | .pending rest => simp [settleOperation, Answer.ofResult] at failed
  | .ready (.ok reply) =>
      cases reply <;>
        simp [settleOperation, Answer.ofResult, Result.ofMaster, Result.ofReply] at failed
  | .ready (.error reason) =>
      simpa [settleOperation, Answer.ofResult, Result.ofMaster] using failed

theorem error_of_settleStandby
    {progress : Poll Standby (Except MasterError Unit) × Delay × Master}
    (failed : (bench.settleStandby number progress).1.result = .masterError cause)
    : progress.1 = .ready (.error cause) := by
  obtain ⟨outcome, delay, master⟩ := progress
  match outcome with
  | .pending rest => simp [settleStandby] at failed
  | .ready (.ok ()) => simp [settleStandby, Result.ofMaster] at failed
  | .ready (.error reason) => simpa [settleStandby, Result.ofMaster] using failed

/-- A bring-up is answered with a cause of its own. -/
theorem settleBringUp_ne_error {index : Nat}
    {progress : Poll BringUp (Except SensorError Unit) × Sensor × Delay × Master}
    : (bench.settleBringUp index number progress).1.result ≠ .masterError cause := by
  obtain ⟨outcome, sensor, delay, master⟩ := progress
  match outcome with
  | .pending _ | .ready (.ok ()) | .ready (.error _) => simp [settleBringUp, Result.ofSensor]

/-- What is wanted of a slave fails without a trace, unless it is a probe that gives up. -/
theorem traceless_of_error {handle : Handle} (operates : action.operand? = some handle)
    (failed : (bench.step action).1.result = .masterError cause)
    (early : cause ≠ .standbyTimeout)
    : bench.Traceless action.names? (bench.step action) := by
  cases action with
  | tryTransfer request =>
      simp only [step] at failed ⊢
      cases answered : (bench.master.tryTransfer request).1 with
      | ok => simp [answered, Answer.ofResult, Result.ofMaster] at failed
      | error reason =>
          rw [Master.tryTransfer_of_error answered]
          exact ⟨rfl, rfl⟩
  | start operation number =>
      have refused := error_of_settleOperation failed
      have same := Master.start_of_error refused
      simp only [step]
      generalize bench.master.start operation = progress at refused same ⊢
      obtain ⟨outcome, master⟩ := progress
      obtain rfl : outcome = .ready (.error cause) := refused
      obtain rfl : master = bench.master := same
      exact ⟨bench.vacate_same number, rfl⟩
  | standby other schedule number =>
      have refused := error_of_settleStandby failed
      have same := Master.startStandby_of_error refused early
      simp only [step]
      generalize bench.master.startStandby other (.new schedule) = progress at refused same ⊢
      obtain ⟨outcome, delay, master⟩ := progress
      obtain rfl : outcome = .ready (.error cause) := refused
      obtain rfl : master = bench.master := same
      exact ⟨bench.vacate_same number, rfl⟩
  | _ => simp [Action.operand?] at operates

/-- A request for nothing leaves no trace, whether or not its bus is busy, and fails only if its
slave is unknown.
-/
theorem traceless_of_empty {request : Request} (asks : action.request? = some request)
    (empty : request.window.length = 0)
    : bench.Traceless action.names? (bench.step action)
      ∧ ∀ slave, bench.master.resolve request.handle = .ok slave
        → (bench.step action).1.result = .done := by
  cases action with
  | tryTransfer other =>
      obtain rfl := Option.some.inj asks
      simp only [step, Master.tryTransfer]
      cases bench.master.resolve other.handle with
      | error cause => exact ⟨⟨rfl, rfl⟩, by simp⟩
      | ok slave =>
          simp only [empty, if_true]
          exact ⟨⟨rfl, rfl⟩, fun _ _ => rfl⟩
  | start operation number =>
      cases operation with
      | transfer other =>
          obtain rfl := Option.some.inj asks
          have nothing : (Operation.transfer other).isEmpty = true := decide_eq_true empty
          have handle : (Operation.transfer other).handle = other.handle := rfl
          simp only [step, Master.start, handle, nothing, if_true]
          cases bench.master.resolve other.handle with
          | error cause => exact ⟨⟨bench.vacate_same number, rfl⟩, by simp⟩
          | ok slave => exact ⟨⟨bench.vacate_same number, rfl⟩, fun _ _ => rfl⟩
      | readByte | writeByte => simp [Action.request?] at asks
  | _ => simp [Action.request?] at asks

/-- The slave of the probe that an action begins or polls. -/
def probed? (bench : Bench) : Action → Option Slave
  | .standby handle _ _ => bench.master.slaves.get? handle
  | .poll number =>
    match bench.task? number with
    | some (.standby rest _) => some rest.slave
    | _ => none
  | _ => none

/-- An operation that waits was resolved when it began, so a poll never finds its slave missing, and
only a probe gives up.
-/
theorem poll_error {number : Nat}
    (failed : (bench.step (.poll number)).1.result = .masterError cause)
    : cause = .standbyTimeout ∧ ∃ slave, bench.probed? (.poll number) = some slave := by
  simp only [step] at failed
  simp only [probed?]
  cases polled : bench.task? number with
  | none => simp [polled, Answer.ofResult] at failed
  | some task =>
      simp only [polled] at failed
      cases task with
      | operation rest =>
          have refused := error_of_settleOperation failed
          unfold Master.resume at refused
          split at refused <;> simp at refused
      | standby rest delay =>
          exact ⟨Master.resumeStandby_error (error_of_settleStandby failed), rest.slave, rfl⟩
      | bringUp index rest delay =>
          simp only [resume] at failed
          split at failed
          · simp [Answer.ofResult] at failed
          · exact absurd failed settleBringUp_ne_error

-----------------------------------------------------------------------------------------
-- Slaves and sensors that are turned away
-----------------------------------------------------------------------------------------

/-- A registration that fails leaves sensors and tasks alone, and of the master it changes at most
that a bus is brought up.
-/
structure Declines (bench : Bench) (slave : Slave) (cause : MasterError)
    (outcome : Answer × Bench)
    : Prop where
  turned : bench.master.TurnsAway slave cause outcome.2.master
  sensors : outcome.2.sensors = bench.sensors
  tasks : outcome.2.tasks = bench.tasks
  untold : outcome.1.notice = none

/-- A sensor that fails to register hands on what became of the master and nothing else. -/
theorem stepSensor_of_error {index : Nat} {sensor : Sensor} {reason : SensorError}
    (here : bench.sensors[index]? = some sensor)
    (refused : (sensor.register bench.master).1 = .error reason)
    : (bench.stepSensor index sensor .register).2
      = { bench with master := (sensor.register bench.master).2.2 } := by
  simp only [stepSensor]
  rw [(Sensor.register_of_error refused).1]
  exact setSensor_self here

/-- A sensor that fails to register leaves the sensors as they were, and one that was registered
before leaves all as it was.
-/
theorem register_of_sensorError {index : Nat} {reason : SensorError}
    (failed : (bench.step (.sensor index .register)).1.result = .sensorError reason)
    : (bench.step (.sensor index .register)).2.sensors = bench.sensors
      ∧ (reason = .invalidState → (bench.step (.sensor index .register)).2 = bench) := by
  simp only [step] at failed ⊢
  cases here : bench.sensors[index]? with
  | none => simp [here, Answer.ofResult] at failed
  | some sensor =>
      simp only [here] at failed ⊢
      have refused : (sensor.register bench.master).1 = .error reason := by
        simp only [stepSensor] at failed
        cases answered : (sensor.register bench.master).1 with
        | ok handle => simp [answered, Answer.ofResult, Result.ofSensor] at failed
        | error cause => simpa [answered, Answer.ofResult, Result.ofSensor] using failed
      rw [stepSensor_of_error here refused]
      refine ⟨rfl, fun again => ?_⟩
      rw [(Sensor.register_of_error refused).2 again]

/-- A slave that is turned away changes the master only, by cases on who asked. -/
theorem declines_of_registrant (asked : bench.registrant action = some slave)
    (failed : (bench.step action).1.result.registration? = some (.error cause))
    : bench.Declines slave cause (bench.step action) := by
  obtain ⟨master, tasks⟩ := step_of_registrant asked
  rw [registration_of_registrant asked, Option.some_inj] at failed
  refine ⟨master ▸ Master.turnsAway_register failed, ?_, tasks, ?_⟩
  · cases action with
    | register => rfl
    | sensor index action =>
        cases action with
        | register =>
            simp only [registrant, Option.bind_eq_some_iff, Option.ite_none_right_eq_some,
              Option.some.injEq] at asked
            obtain ⟨sensor, here, new, rfl⟩ := asked
            have refused : (sensor.register bench.master).1 = .error (.master cause) := by
              simp only [Sensor.register, new, if_true]
              generalize bench.master.register sensor.slave = progress at failed ⊢
              obtain ⟨outcome, next⟩ := progress
              obtain rfl : outcome = .error cause := failed
              rfl
            simp only [step, here]
            rw [stepSensor_of_error here refused]
        | bringUp | enable | disable | dataReady | decode => simp [registrant] at asked
    | _ => simp [registrant] at asked
  · refine notice_eq_none (fun id stream same => ?_)
    subst same
    simp [registrant] at asked

-----------------------------------------------------------------------------------------
-- Probes
-----------------------------------------------------------------------------------------

/-- A poll of a probe uses no bus but that of its slave. A probe that waits goes on with the same
slave, and the bus is idle when it is over.
-/
structure Confines (bench : Bench) (slave : Slave) (number : Option Nat)
    (outcome : Answer × Bench)
    : Prop where
  same : bench.master.SameBut slave.bus outcome.2.master
  sensors : outcome.2.sensors = bench.sensors
  untold : outcome.1.notice = none
  waits
    : outcome.1.result = .pending
      → ∀ task, number = some task
        → ∃ rest delay,
            outcome.2.task? task = some (.standby rest delay) ∧ rest.slave = slave
  ends
    : outcome.1.result ≠ .pending → (outcome.2.master.bus slave.bus).isBusy = false

theorem confines_settleStandby
    {progress : Poll Standby (Except MasterError Unit) × Delay × Master}
    (polls : bench.master.Polls slave progress) (number : Option Nat)
    : bench.Confines slave number (bench.settleStandby number progress) := by
  obtain ⟨outcome, delay, master⟩ := progress
  cases outcome with
  | pending rest =>
      refine ⟨?_, ?_, rfl, ?_, by simp [settleStandby]⟩
      · rw [master_settleStandby]
        exact polls.same
      · rw [sensors_settleStandby]
      · rintro - task rfl
        exact ⟨rest, delay, task?_keep_self _ _ task, polls.waits rest rfl⟩
  | ready answer =>
      refine ⟨polls.same, rfl, rfl, ?_, fun _ => polls.ends answer rfl⟩
      cases answer <;> simp [settleStandby, Result.ofMaster]

/-- A probe of a known slave begins or goes on on the bus of that slave. -/
theorem Grounded.confines (grounded : bench.Grounded) (probes : bench.probed? action = some slave)
    : bench.Confines slave action.names? (bench.step action) := by
  have room (number : Option Nat) {outcome : Answer × Bench}
      (confines : (bench.vacate number).Confines slave number outcome)
      : bench.Confines slave number outcome := by
    obtain ⟨same, sensors, untold, waits, ends⟩ := confines
    rw [vacate_master] at same
    rw [vacate_sensors] at sensors
    exact ⟨same, sensors, untold, waits, ends⟩
  cases action with
  | standby handle schedule number =>
      have found : bench.master.slaves.get? handle = some slave := probes
      have resolved : bench.master.resolve handle = .ok slave := by
        rcases grounded.lawful.resolve handle with ⟨other, there, known⟩ | ⟨past, -⟩
        · obtain rfl := Option.some.inj (there.symm.trans found)
          exact known
        · simp [SlaveTable.get?_eq_none_iff.mpr past] at found
      refine room number (confines_settleStandby ?_ number)
      have begins : bench.master.startStandby handle (.new schedule)
          = bench.master.claimStandby handle slave (.new schedule) := by
        rw [Master.startStandby, resolved]
      rw [vacate_master, begins]
      exact bench.master.polls_claimStandby handle slave _
  | poll number =>
      simp only [probed?] at probes
      split at probes
      · rename_i rest delay polled
        obtain rfl := Option.some.inj probes
        simp only [Bench.step, polled]
        exact room (some number)
          (confines_settleStandby (Master.polls_resumeStandby _ rest delay) (some number))
      · simp at probes
  | _ => simp [probed?] at probes

-----------------------------------------------------------------------------------------
-- Every run
-----------------------------------------------------------------------------------------

/-- The table knows a slave by exactly the handles that a request is not refused for. -/
theorem Grounded.unknown_iff (grounded : bench.Grounded) {handle : Handle}
    (operates : action.operand? = some handle)
    : (bench.step action).1.result = .masterError .unknownSlave
      ↔ bench.master.slaves.get? handle = none := by
  rcases grounded.lawful.resolve handle with ⟨slave, found, known⟩ | ⟨past, unknown⟩
  · simp [(operates_of_known operates known).1, found]
  · simp [(operates_of_unknown operates unknown).1, SlaveTable.get?_eq_none_iff.mpr past]

/-- Whatever was done before, what is wanted of a slave and fails has changed nothing and told
nobody, be it that the slave is unknown, its bus absent or its bus busy; only a probe that gives up
fails later than that, and no other wait fails. The same holds for a request for nothing, which
succeeds even on a busy bus and fails only for want of its slave, and for what clients ask for
while they are told and sensors while they are brought up. A slave that is turned away has changed
nothing, or has had its bus brought up if only the table refused it, and a sensor that is turned
away is as it was. A probe uses no other bus than that of its slave, which is idle when the probe
is over.
-/
theorem refusals_leave_no_trace (capacity : Fin 255) (paces : PerBus (Option Pace))
    (buffers : List (List UInt8)) (sensors : List (Config × Nat)) (actions : List Action)
    : let bench := ((assemble capacity paces buffers sensors).run actions).2
      (∀ action handle, action.operand? = some handle
        → ((bench.step action).1.result = .masterError .unknownSlave
            ↔ bench.master.slaves.get? handle = none)
          ∧ ∀ cause, (bench.step action).1.result = .masterError cause
            → cause ≠ .standbyTimeout
            → bench.Traceless action.names? (bench.step action))
      ∧ (∀ action request, action.request? = some request → request.window.length = 0
        → bench.Traceless action.names? (bench.step action)
          ∧ (bench.master.slaves.get? request.handle ≠ none
            → (bench.step action).1.result = .done))
      ∧ (∀ (master : Master) request cause,
        (master.tryTransfer request).1 = .error cause ∨ request.window.length = 0
        → (master.tryTransfer request).2 = master)
      ∧ (∀ (master : Master) operation cause,
        (master.start operation).1 = .ready (.error cause)
        → (master.start operation).2 = master)
      ∧ (∀ action slave cause, bench.registrant action = some slave
        → (bench.step action).1.result.registration? = some (.error cause)
        → bench.Declines slave cause (bench.step action))
      ∧ (∀ index reason,
        (bench.step (.sensor index .register)).1.result = .sensorError reason
        → (bench.step (.sensor index .register)).2.sensors = bench.sensors
          ∧ (reason = .invalidState → (bench.step (.sensor index .register)).2 = bench))
      ∧ (∀ number cause, (bench.step (.poll number)).1.result = .masterError cause
        → cause = .standbyTimeout ∧ ∃ slave, bench.probed? (.poll number) = some slave)
      ∧ ∀ action slave, bench.probed? action = some slave
        → bench.Confines slave action.names? (bench.step action) := by
  have grounded := (grounded_assemble capacity paces buffers sensors).run actions
  intro bench
  refine ⟨?_, ?_, ?_, fun _ _ _ => Master.start_of_error, fun _ _ _ => declines_of_registrant,
    fun _ _ => register_of_sensorError, fun _ _ => poll_error,
    fun _ _ => grounded.confines⟩
  · intro action handle operates
    exact ⟨grounded.unknown_iff operates, fun _ => traceless_of_error operates⟩
  · intro action request asks empty
    obtain ⟨traceless, done⟩ := traceless_of_empty asks empty
    refine ⟨traceless, fun known => ?_⟩
    rcases grounded.lawful.resolve request.handle with ⟨slave, -, found⟩ | ⟨past, -⟩
    · exact done slave found
    · exact absurd (SlaveTable.get?_eq_none_iff.mpr past) known
  · rintro master request cause (failed | empty)
    · exact Master.tryTransfer_of_error failed
    · exact Master.tryTransfer_of_empty empty

/-- While a reception has the bus, a write is refused and a write of nothing succeeds, and neither
leaves a trace. A slave for which the table has no place is turned away when its bus, which no slave
had used before, has been brought up. A probe of a slave that never acknowledges gives up in its
only poll, and the bus is idle then.
-/
theorem refusals_leave_no_trace_on_busy_bus
    : let read : Request := ⟨.read, ⟨0⟩, ⟨.bits8, 0x01⟩, ⟨.buffer 0, 0, 4⟩⟩
      let write (length : Nat) : Request := ⟨.write, ⟨0⟩, ⟨.bits8, 0x01⟩, ⟨.buffer 0, 0, length⟩⟩
      let late : Slave := ⟨.i2c2, 0x50, .none⟩
      let probe : Action := .standby ⟨1⟩ false none
      let start := assemble 2 ⟨some .instant, some .instant, some .instant⟩ [[0, 0, 0, 0]] []
      let bench :=
        (start.run [.register ⟨.i2c1, 0x50, .none⟩, .register ⟨.i2c3, 0x51, .none⟩,
          .tryTransfer read, .arrange .i2c3 (.refuseAll true)]).2
      (bench.step (.tryTransfer (write 2))).1.result = .masterError .busy
      ∧ bench.Traceless none (bench.step (.tryTransfer (write 2)))
      ∧ bench.Traceless none (bench.step (.tryTransfer (write 0)))
      ∧ (bench.step (.tryTransfer (write 0))).1.result = .done
      ∧ bench.Declines late .tableFull (bench.step (.register late))
      ∧ ((bench.step (.register late)).2.master.peripheral? .i2c2).map Peripheral.trace
        = some [.command .configure]
      ∧ (bench.step probe).1.result = .masterError .standbyTimeout
      ∧ bench.Confines ⟨.i2c3, 0x51, .none⟩ none (bench.step probe) := by
  intro read write late probe start bench
  obtain ⟨fails, empty, -, -, declines, -, -, confines⟩ :=
    refusals_leave_no_trace 2 ⟨some .instant, some .instant, some .instant⟩ [[0, 0, 0, 0]] []
      [.register ⟨.i2c1, 0x50, .none⟩, .register ⟨.i2c3, 0x51, .none⟩, .tryTransfer read,
        .arrange .i2c3 (.refuseAll true)]
  have busy : (bench.step (.tryTransfer (write 2))).1.result = .masterError .busy := by decide
  have known : bench.master.slaves.get? ⟨0⟩ = some ⟨.i2c1, 0x50, .none⟩ := rfl
  obtain ⟨traceless, done⟩ := empty (.tryTransfer (write 0)) (write 0) rfl rfl
  exact ⟨busy, (fails (.tryTransfer (write 2)) ⟨0⟩ rfl).2 _ busy (by decide), traceless,
    done (Option.ne_none_iff_exists'.mpr ⟨_, known⟩), declines (.register late) late _ rfl rfl,
    by decide, by decide, confines probe _ rfl⟩

end Bench

end TwoWire
