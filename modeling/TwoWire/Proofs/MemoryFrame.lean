import TwoWire.Proofs.Arrivals

/-! Which bytes an action changes, in every run and whatever is done.

A byte that is read into a window arrives while the action is done, and bytes that are delivered
arrive where they are armed. Nothing else is ever written, so a ring that is left to its sensor is
written in its slots only, and the bytes beside the slots stay what they were.
-/

namespace TwoWire

open Magnetometer

-----------------------------------------------------------------------------------------
-- Operations that begin or go on
-----------------------------------------------------------------------------------------

/-- What arrived in the memory while an operation was done on a bus, given how it was answered. -/
def Operation.arrived (operation : Operation) (bus : BusId) (before after : Master)
    : Result → Option Arrival
  | .done => operation.arrival ((before.saidUntil after bus).filterMap Command.received?)
  | _ => none

theorem Operation.of_mem_arrived {operation : Operation} {bus : BusId} {before after : Master}
    {result : Result} {given : Arrival}
    (arrived : given ∈ operation.arrived bus before after result)
    : result = .done
      ∧ given
        ∈ operation.arrival ((before.saidUntil after bus).filterMap Command.received?) := by
  cases result with
  | done => exact ⟨rfl, arrived⟩
  | _ => simp [Operation.arrived] at arrived

/-- An operation without bytes has nothing arrive. -/
theorem Operation.arrival_of_isEmpty {operation : Operation} (empty : operation.isEmpty = true)
    (received : List UInt8)
    : operation.arrival received = none := by
  match operation with
  | .transfer ⟨.read, _, _, window⟩ =>
      have length : window.length = 0 := of_decide_eq_true empty
      simp [arrival, length]
  | .transfer ⟨.write, _, _, _⟩ | .readByte .. | .writeByte .. => rfl

/-- How it is answered that an operation got on. -/
def Result.ofProgress : Poll Claiming (Except MasterError Reply) → Result
  | .ready outcome => ofMaster ofReply outcome
  | .pending _ => pending

namespace Master

/-- How an operation got on: it was refused, it waits, it had nothing to move, or it was served. -/
inductive Advances (master : Master) (operation : Operation) (bus : BusId)
    : Poll Claiming (Except MasterError Reply) × Master → Prop
  | refused (cause : MasterError) : Advances master operation bus (.ready (.error cause), master)
  | waits (rest : Claiming) : Advances master operation bus (.pending rest, master)
  | empty (empty : operation.isEmpty = true)
    : Advances master operation bus (.ready (.ok .done), master)
  | served {slave reply next} (home : slave.bus = bus)
    (served : master.attempt slave operation = some (reply, next))
    : Advances master operation bus (.ready (.ok reply), next)

variable {master next : Master} {operation : Operation} {bus : BusId} {slave : Slave}

theorem advances_resume (master : Master) (claiming : Claiming)
    : master.Advances claiming.operation claiming.slave.bus (master.resume claiming) := by
  unfold resume
  split
  · exact .waits claiming
  · rename_i served
    exact .served rfl served

/-- The slave is looked up when an operation begins, and then it goes on as if it had waited. -/
theorem advances_start (found : master.slaves.get? operation.handle = some slave)
    : master.Advances operation slave.bus (master.start operation) := by
  unfold start
  cases resolved : master.resolve operation.handle with
  | error cause => exact .refused cause
  | ok known =>
      obtain rfl := Option.some.inj (found.symm.trans (get?_of_resolve resolved).1)
      dsimp only
      split
      · rename_i empty
        exact .empty empty
      · split
        · exact .waits _
        · rename_i served
          exact .served rfl served

/-- A transfer that does not wait is answered by its end or by an error. -/
theorem advances_tryTransfer {request : Request}
    (found : master.slaves.get? request.handle = some slave)
    : master.Advances (.transfer request) slave.bus
        (.ready ((master.tryTransfer request).1.map fun _ => .done),
          (master.tryTransfer request).2) := by
  rcases master.tryTransfer_cases request with ⟨cause, same⟩ | ⟨known, there, outcome⟩
  · rw [same]
    exact .refused cause
  · obtain rfl := Option.some.inj (found.symm.trans there)
    rcases outcome with ⟨empty, same⟩ | ⟨reply, next, served, same⟩
    · rw [same]
      exact .empty (decide_eq_true empty)
    · obtain rfl := reply_of_attempt served
      rw [same]
      exact .served rfl served

/-- Without a slave of its handle nothing is done. -/
theorem start_of_unknown (unknown : master.slaves.get? operation.handle = none)
    : (master.start operation).2 = master := by
  simp [start, resolve, unknown]

theorem tryTransfer_of_unknown {request : Request}
    (unknown : master.slaves.get? request.handle = none)
    : (master.tryTransfer request).2 = master := by
  simp [tryTransfer, resolve, unknown]

/-- What arrives while an operation gets on is what arrived if it was served, by cases on how it was
answered. Only a transfer can have something arrive, and it is answered by nothing but its end.
-/
theorem Advances.effect {progress : Poll Claiming (Except MasterError Reply) × Master}
    (advances : master.Advances operation bus progress)
    : master.Effect operation.windows
        (operation.arrived bus master progress.2 (.ofProgress progress.1)) progress.2 := by
  cases advances with
  | refused cause | waits rest => exact .refl master
  | empty empty =>
      simp only [Result.ofProgress, Result.ofMaster, Result.ofReply, Operation.arrived,
        Operation.arrival_of_isEmpty empty]
      exact .refl master
  | @served slave reply next home served =>
      subst home
      have effect := effect_attempt served
      cases operation with
      | transfer request =>
          obtain rfl := reply_of_attempt served
          exact effect
      | readByte | writeByte => cases reply <;> exact effect

/-- A transfer of some bytes that was answered by its end was served. -/
theorem Advances.served_of_done {progress : Poll Claiming (Except MasterError Reply) × Master}
    {request : Request} (advances : master.Advances (.transfer request) bus progress)
    (single : request.window.length = 1) (ended : Result.ofProgress progress.1 = .done)
    : ∃ slave,
        slave.bus = bus ∧ master.attempt slave (.transfer request) = some (.done, progress.2) := by
  cases advances with
  | refused | waits => simp [Result.ofProgress, Result.ofMaster] at ended
  | empty empty =>
      have length : request.window.length = 0 := of_decide_eq_true empty
      omega
  | @served slave _ _ home served =>
      obtain rfl := reply_of_attempt served
      exact ⟨slave, home, served⟩

/-- What arrived is one byte that was received meanwhile, and the read into its window has ended. -/
theorem Advances.received {progress : Poll Claiming (Except MasterError Reply) × Master}
    {given : Arrival} (advances : master.Advances operation bus progress)
    (arrived : given ∈ operation.arrived bus master progress.2 (.ofProgress progress.1))
    : ∃ request value,
        operation = .transfer request
        ∧ request.kind = .read
        ∧ given = ⟨request.window, [value]⟩
        ∧ request.window.length = 1
        ∧ .receive value ∈ master.saidUntil progress.2 bus
        ∧ Result.ofProgress progress.1 = .done := by
  obtain ⟨ended, arrived⟩ := Operation.of_mem_arrived arrived
  obtain ⟨request, rfl, reads, single, rfl⟩ := Operation.eq_of_mem_arrival arrived
  obtain ⟨slave, rfl, served⟩ := advances.served_of_done single ended
  obtain ⟨value, received⟩ := received_of_attempt served reads single
  have member
      : value ∈ (master.saidUntil progress.2 slave.bus).filterMap Command.received? := by
    rw [received]
    exact List.mem_singleton_self value
  obtain ⟨command, said, same⟩ := List.mem_filterMap.mp member
  obtain rfl : command = .receive value := by
    cases command <;> simp_all [Command.received?]
  exact ⟨request, value, rfl, reads, by rw [received], single, said, ended⟩

/-- A read into a window of one byte that has ended received that byte. -/
theorem Advances.arrived {progress : Poll Claiming (Except MasterError Reply) × Master}
    {request : Request} {value : UInt8}
    (advances : master.Advances (.transfer request) bus progress) (reads : request.kind = .read)
    (single : request.window.length = 1) (ended : Result.ofProgress progress.1 = .done)
    (received : .receive value ∈ master.saidUntil progress.2 bus)
    : (Operation.transfer request).arrived bus master progress.2 (.ofProgress progress.1)
      = some ⟨request.window, [value]⟩ := by
  obtain ⟨slave, rfl, served⟩ := advances.served_of_done single ended
  obtain ⟨only, same⟩ := received_of_attempt served reads single
  have member
      : value ∈ (master.saidUntil progress.2 slave.bus).filterMap Command.received? :=
    List.mem_filterMap.mpr ⟨_, received, rfl⟩
  rw [same, List.mem_singleton] at member
  subst member
  obtain ⟨kind, handle, register, window⟩ := request
  obtain rfl : kind = .read := reads
  dsimp only at single
  simp only [ended, Operation.arrived, Operation.arrival, single, if_true, same]

end Master

-----------------------------------------------------------------------------------------
-- What arrives while an action is done
-----------------------------------------------------------------------------------------

namespace Bench

/-- The operation that an action begins or goes on with, and the bus on which it happens. -/
def operation? (bench : Bench) : Action → Option (Operation × BusId)
  | .tryTransfer request =>
    (bench.master.slaves.get? request.handle).map fun slave => (.transfer request, slave.bus)
  | .start operation _ =>
    (bench.master.slaves.get? operation.handle).map fun slave => (operation, slave.bus)
  | .poll number =>
    match bench.task? number with
    | some (.operation rest) => some (rest.operation, rest.slave.bus)
    | _ => none
  | _ => none

/-- What arrives in the memory while an action is done: bytes that are delivered arrive where they
are armed, and a byte that is read into a window arrives there when the read is done.
-/
def arrival (bench : Bench) (action : Action) : Option Arrival :=
  match action with
  | .deliver bus data => (bench.reception bus).map fun window => ⟨window, data⟩
  | action =>
    (bench.operation? action).bind fun (operation, bus) =>
      operation.arrived bus bench.master (bench.step action).2.master (bench.step action).1.result

/-- The windows that clients hand out in an action, to the master or to a peripheral. -/
def handed (bench : Bench) : Action → List Window
  | .complete bus stream => (bench.master.asked bus stream).map Request.window
  | .manual _ (.arm _ window) => [window]
  | action => (bench.operation? action).toList.flatMap fun (operation, _) => operation.windows

/-- The window of the capture that a data-ready edge may begin. -/
def captured (bench : Bench) : Action → List Window
  | .sensor index .dataReady =>
    bench.sensors[index]?.toList.map fun sensor =>
      Sensor.captureWindow sensor.ring (bench.master.memory.ring sensor.ring).cursor
  | _ => []

variable {bench : Bench} {action : Action} {number : Option Nat}

theorem result_settleOperation (bench : Bench) (number : Option Nat)
    (progress : Poll Claiming (Except MasterError Reply) × Master)
    : (bench.settleOperation number progress).1.result = .ofProgress progress.1 := by
  obtain ⟨outcome, master⟩ := progress
  cases outcome <;> rfl

/-- What is done with a peripheral touches no memory, and arms what the peripheral arms. -/
theorem effect_withPeripheral (bench : Bench) (id : BusId)
    {act : Peripheral → Result × Peripheral} {windows : List Window}
    (arms : ∀ peripheral : Peripheral, peripheral.Arms windows (act peripheral).2)
    : bench.master.Effect windows none (bench.withPeripheral id act).2.master := by
  unfold withPeripheral
  split
  · exact .refl _
  · rename_i peripheral here
    exact Master.effect_setPeripheral here (arms peripheral)

theorem effect_deliver (bench : Bench) (bus : BusId) (data : List UInt8)
    : bench.master.Effect [] ((bench.reception bus).map fun window => ⟨window, data⟩)
        (bench.deliver bus data).2.master := by
  unfold deliver reception
  cases here : bench.master.peripheral? bus with
  | none => exact .refl _
  | some peripheral =>
      simp only [Peripheral.deliver, Peripheral.takeArmed, Option.bind_some]
      cases armed : peripheral.armed with
      | none => exact .refl _
      | some transfer =>
          obtain ⟨stream, window⟩ := transfer
          cases stream with
          | tx => exact .refl _
          | rx =>
              have arms
                  : peripheral.Arms []
                      ({ peripheral with armed := none }.setCompleted .rx true) := by
                simp [Peripheral.Arms, Peripheral.setCompleted]
              exact Master.effect_setBus here rfl arms
                (bench.master.memory.takes_write window data)

/-- An operation that an action names gets on while the action is done, by cases on the action. -/
theorem advances_of_operation? {operation : Operation} {bus : BusId}
    (named : bench.operation? action = some (operation, bus))
    : ∃ progress,
        bench.master.Advances operation bus progress
        ∧ (bench.step action).1.result = .ofProgress progress.1
        ∧ (bench.step action).2.master = progress.2 := by
  cases action with
  | tryTransfer request =>
      obtain ⟨slave, found, same⟩ := Option.map_eq_some_iff.mp named
      cases same
      refine ⟨_, Master.advances_tryTransfer found, ?_, rfl⟩
      simp only [Bench.step]
      cases (bench.master.tryTransfer request).1 <;> rfl
  | start operation number =>
      obtain ⟨slave, found, same⟩ := Option.map_eq_some_iff.mp named
      cases same
      exact ⟨_, Master.advances_start found, result_settleOperation _ _ _,
        master_settleOperation _ _ _⟩
  | poll number =>
      simp only [operation?] at named
      split at named
      · rename_i rest polled
        cases named
        refine ⟨_, bench.master.advances_resume rest, ?_, ?_⟩
        · simp only [Bench.step, polled]
          exact result_settleOperation _ _ _
        · simp only [Bench.step, polled]
          exact master_settleOperation _ _ _
      · simp at named
  | _ => simp [operation?] at named

theorem effect_of_operation? {operation : Operation} {bus : BusId}
    (named : bench.operation? action = some (operation, bus))
    : bench.master.Effect operation.windows
        (operation.arrived bus bench.master (bench.step action).2.master
          (bench.step action).1.result)
        (bench.step action).2.master := by
  obtain ⟨progress, advances, result, master⟩ := advances_of_operation? named
  rw [result, master]
  exact advances.effect

/-- A transfer that does not wait lets arrive what it does on every bench. -/
theorem effect_tryTransfer (bench : Bench) (request : Request)
    : bench.master.Effect (bench.handed (.tryTransfer request))
        (bench.arrival (.tryTransfer request)) (bench.step (.tryTransfer request)).2.master := by
  cases found : bench.master.slaves.get? request.handle with
  | none =>
      simp only [arrival, operation?, found, Option.map_none, Option.bind_none, Bench.step,
        Master.tryTransfer_of_unknown found]
      exact .refl bench.master
  | some slave =>
      have named : bench.operation? (.tryTransfer request) = some (_, slave.bus) :=
        Option.map_eq_some_iff.mpr ⟨slave, found, rfl⟩
      simp only [arrival, handed, named]
      exact (effect_of_operation? named).mono (by simp)

/-- An edge arms the window of its capture at most, which is too long to have a byte arrive at once.
-/
theorem effect_dataReady (master : Master) (sensor : Sensor)
    : master.Effect [Sensor.captureWindow sensor.ring (master.memory.ring sensor.ring).cursor] none
        (sensor.dataReady master) := by
  unfold Sensor.dataReady
  split
  · cases sensor.handle.load with
    | none => exact .refl master
    | some handle =>
        dsimp only
        rcases master.tryTransfer_cases (sensor.captureRequest handle master.memory) with
          ⟨cause, same⟩ | ⟨slave, found, ⟨empty, same⟩ | ⟨reply, next, served, same⟩⟩
        · rw [same]
          exact .refl master
        · rw [same]
          exact .refl master
        · rw [same]
          exact Master.effect_attempt served
  · exact .refl master

/-- Every action but a completion lets arrive what it does and arms no other windows, by cases on
the action.
-/
theorem Grounded.effect (grounded : bench.Grounded)
    (plain : ∀ bus stream, action ≠ .complete bus stream)
    : bench.master.Effect (bench.handed action ++ bench.captured action) (bench.arrival action)
        (bench.step action).2.master := by
  cases action with
  | complete bus stream => exact absurd rfl (plain bus stream)
  | configureAll => exact bench.master.effect_configureAll
  | register slave => exact bench.master.effect_register slave
  | tryTransfer request =>
      exact (bench.effect_tryTransfer request).mono fun _ => List.mem_append_left _
  | start operation number =>
      cases found : bench.master.slaves.get? operation.handle with
      | none =>
          simp only [arrival, operation?, found, Option.map_none, Option.bind_none, Bench.step,
            master_settleOperation, Master.start_of_unknown found]
          exact .refl bench.master
      | some slave =>
          have named : bench.operation? (.start operation number) = some (operation, slave.bus) :=
            Option.map_eq_some_iff.mpr ⟨slave, found, rfl⟩
          simp only [arrival, handed, captured, named]
          exact (effect_of_operation? named).mono (by simp)
  | standby handle schedule number =>
      simp only [Bench.step, master_settleStandby]
      exact bench.master.effect_startStandby handle _
  | poll number =>
      cases polled : bench.task? number with
      | none =>
          simp only [arrival, operation?, Bench.step, polled]
          exact .refl bench.master
      | some task =>
          cases task with
          | operation rest =>
              have named
                  : bench.operation? (.poll number) = some (rest.operation, rest.slave.bus) := by
                simp only [operation?, polled]
              simp only [arrival, handed, captured, named]
              exact (effect_of_operation? named).mono (by simp)
          | standby rest delay =>
              simp only [arrival, operation?, Bench.step, polled, resume, master_settleStandby]
              exact (bench.master.effect_resumeStandby rest delay).mono (by simp)
          | bringUp index rest delay =>
              simp only [arrival, operation?, Bench.step, polled, resume]
              cases (bench.discard number).sensors[index]? with
              | none => exact .refl bench.master
              | some sensor =>
                  have goes
                      : BringUp.Goes bench.master (rest.resume sensor.config delay bench.master) :=
                    BringUp.goes_resume (grounded.tasks _ (mem_tasks_of_task? polled)) delay
                  simp only [master_settleBringUp]
                  exact goes.serves.effect.mono (by simp)
  | drop number => exact .refl bench.master
  | advanceRing index =>
      simp only [Bench.step]
      cases bench.sensors[index]? with
      | none => exact .refl bench.master
      | some sensor => exact Master.effect_memory (bench.master.memory.takes_advanceRing _)
  | arrange bus | forget bus =>
      exact bench.effect_withPeripheral bus (fun _ => Peripheral.arms_of_armed rfl)
  | raise bus stream =>
      exact bench.effect_withPeripheral bus (fun peripheral =>
        Peripheral.arms_of_armed (peripheral.armed_setCompleted stream true))
  | deliver bus data => exact bench.effect_deliver bus data
  | drain bus =>
      refine bench.effect_withPeripheral bus (fun peripheral => ?_)
      simp only [Peripheral.drain]
      cases taken : peripheral.takeArmed .tx with
      | none => exact Peripheral.arms_of_armed rfl
      | some entry =>
          have gone : entry.2.armed = none := Peripheral.armed_of_taken taken
          intro stream window armed
          cases gone.symm.trans ((entry.2.armed_setCompleted .tx true).symm.trans armed)
  | manual bus access =>
      refine (bench.effect_withPeripheral bus (fun peripheral =>
        peripheral.arms_manual access)).mono ?_
      cases access <;> simp [handed, captured, operation?]
  | sensor index action =>
      simp only [arrival, handed, captured, operation?, Bench.step]
      cases here : bench.sensors[index]? with
      | none => cases action <;> exact .refl bench.master
      | some sensor =>
          cases action with
          | register =>
              have registered := bench.master.effect_register sensor.slave
              simp only [stepSensor, Sensor.register]
              split
              · split <;> rename_i same <;> rw [same] at registered <;> exact registered
              · exact .refl bench.master
          | bringUp table schedule number =>
              simp only [stepSensor, master_settleBringUp]
              exact (sensor.goes_startBringUp table (.new schedule) bench.master).serves.effect
          | enable | disable | decode => exact .refl bench.master
          | dataReady => exact (effect_dataReady bench.master sensor).mono (by simp [here])

/-- Transfers that follow each other in a run are transfers that follow each other on its master. -/
theorem run_tryTransfers (bench : Bench) (requests : List Request)
    : (bench.run (requests.map .tryTransfer)).2
      = { bench with master := (bench.master.tryTransfers requests).2 } := by
  induction requests generalizing bench with
  | nil => rfl
  | cons request rest ih => exact ih _

-----------------------------------------------------------------------------------------
-- Where arrivals come from
-----------------------------------------------------------------------------------------

/-- A byte that was read into the window of a transfer: the transfer ended in this action, and the
byte was received meanwhile.
-/
structure Reads (bench : Bench) (action : Action) (request : Request) (value : UInt8) : Prop where
  kind : request.kind = .read
  single : request.window.length = 1
  ended : (bench.step action).1.result = .done
  received
    : ∃ bus,
        bench.operation? action = some (.transfer request, bus)
        ∧ .receive value ∈ bench.master.saidUntil (bench.step action).2.master bus

/-- What arrives while an action is done is delivered where it is armed, or it is the byte that is
read into a window of one byte.
-/
theorem mem_arrival_iff {given : Arrival}
    : given ∈ bench.arrival action
      ↔ (∃ bus, action = .deliver bus given.data ∧ bench.reception bus = some given.window)
        ∨ ∃ request value,
            bench.Reads action request value ∧ given = ⟨request.window, [value]⟩ := by
  have read
      : (given ∈ (bench.operation? action).bind fun (operation, bus) =>
          operation.arrived bus bench.master (bench.step action).2.master
            (bench.step action).1.result)
        ↔ ∃ request value,
            bench.Reads action request value ∧ given = ⟨request.window, [value]⟩ := by
    rw [Option.mem_bind_iff]
    constructor
    · rintro ⟨⟨operation, bus⟩, named, arrived⟩
      obtain ⟨progress, advances, result, master⟩ := advances_of_operation? named
      rw [result, master] at arrived
      obtain ⟨request, value, rfl, kind, rfl, single, received, ended⟩ :=
        advances.received arrived
      exact ⟨request, value, ⟨kind, single, result.trans ended, bus, named, master ▸ received⟩,
        rfl⟩
    · rintro ⟨request, value, ⟨kind, single, ended, bus, named, received⟩, rfl⟩
      obtain ⟨progress, advances, result, master⟩ := advances_of_operation? named
      refine ⟨_, named, ?_⟩
      rw [result] at ended ⊢
      rw [master] at received ⊢
      exact advances.arrived kind single ended received
  cases action with
  | deliver bus data =>
      constructor
      · intro arrived
        obtain ⟨window, armed, rfl⟩ := Option.map_eq_some_iff.mp arrived
        exact .inl ⟨bus, rfl, armed⟩
      · rintro (⟨_, ⟨⟩, armed⟩ | ⟨request, value, reads, -⟩)
        · exact Option.map_eq_some_iff.mpr ⟨_, armed, rfl⟩
        · obtain ⟨_, named, -⟩ := reads.received
          simp [operation?] at named
  | _ => exact read.trans ⟨.inr, fun source => source.elim (by simp) id⟩

-----------------------------------------------------------------------------------------
-- Rings that are left to their sensors
-----------------------------------------------------------------------------------------

/-- Clients hand out no window of the ring. -/
def Avoids (ring : Nat) (bench : Bench) (action : Action) : Prop :=
  ∀ window ∈ bench.handed action, window.region ≠ .ring ring

instance (ring : Nat) (bench : Bench) (action : Action) : Decidable (bench.Avoids ring action) :=
  inferInstanceAs (Decidable (∀ window ∈ bench.handed action, window.region ≠ .ring ring))

/-- What is armed in the ring is the window of a capture. -/
def Shelters (ring : Nat) (bench : Bench) : Prop :=
  ∀ id window, bench.master.Armed id window → window.region = .ring ring
    → ∃ slot, window = Sensor.captureWindow ring slot

variable {ring : Nat}

theorem capture_of_captured {window : Window} (member : window ∈ bench.captured action)
    (inside : window.region = .ring ring)
    : ∃ slot, window = Sensor.captureWindow ring slot := by
  match action with
  | .sensor index .dataReady =>
      obtain ⟨sensor, -, rfl⟩ := List.mem_map.mp member
      obtain rfl := Region.ring.inj inside
      exact ⟨_, rfl⟩

theorem armed_of_reception {bus : BusId} {window : Window}
    (armed : bench.reception bus = some window)
    : bench.master.Armed bus window := by
  obtain ⟨peripheral, here, same⟩ := Option.bind_eq_some_iff.mp armed
  split at same
  · rename_i armed
    cases same
    exact ⟨peripheral, .rx, here, armed⟩
  · simp at same

/-- The window of a read that has ended was handed out. -/
theorem Reads.handed {request : Request} {value : UInt8}
    (reads : bench.Reads action request value)
    : request.window ∈ bench.handed action := by
  obtain ⟨bus, named, -⟩ := reads.received
  cases action with
  | tryTransfer | start | poll =>
      simp only [Bench.handed, named, Option.toList_some, List.flatMap_cons, List.flatMap_nil,
        List.append_nil]
      exact List.mem_singleton_self _
  | _ => simp [operation?] at named

/-- Whatever is done, only captures arm windows of the ring, if clients keep away from it. -/
theorem Shelters.step (shelters : bench.Shelters ring) (grounded : bench.Grounded)
    (avoids : bench.Avoids ring action)
    : (bench.step action).2.Shelters ring := by
  intro id window armed inside
  by_cases completes : ∃ bus stream, action = .complete bus stream
  · obtain ⟨bus, stream, rfl⟩ := completes
    obtain ⟨told, effect, same⟩ := bench.master.complete_eq bus stream
    have armed : (bench.master.complete bus stream).2.Armed id window := armed
    rw [same] at armed
    rcases told.armed_tryTransfers _ armed with before | ⟨request, member, rfl⟩
    · rcases effect.armed id window before with earlier | none
      · exact shelters id window earlier inside
      · simp at none
    · exact absurd inside (avoids _ (List.mem_map_of_mem member))
  · have plain (bus : BusId) (stream : Stream) : action ≠ .complete bus stream :=
      fun same => completes ⟨bus, stream, same⟩
    rcases (grounded.effect plain).armed id window armed with before | new
    · exact shelters id window before inside
    · rcases List.mem_append.mp new with handed | captured
      · exact absurd inside (avoids window handed)
      · exact capture_of_captured captured inside

/-- Clients that hand out no window of the ring leave it to deliveries, and what is delivered there
fills the slot of a capture.
-/
theorem Shelters.bytes (shelters : bench.Shelters ring) (grounded : bench.Grounded)
    (avoids : bench.Avoids ring action)
    : (bench.step action).2.master.memory.bytes (.ring ring)
        = bench.master.memory.bytes (.ring ring)
      ∨ ∃ bus data slot,
          action = .deliver bus data
          ∧ bench.reception bus = some (Sensor.captureWindow ring slot)
          ∧ bench.master.memory.Takes (some ⟨Sensor.captureWindow ring slot, data⟩)
              (bench.step action).2.master.memory := by
  by_cases completes : ∃ bus stream, action = .complete bus stream
  · obtain ⟨bus, stream, rfl⟩ := completes
    obtain ⟨told, effect, same⟩ := bench.master.complete_eq bus stream
    refine .inl ?_
    have apart (request : Request) (member : request ∈ bench.master.asked bus stream)
        : request.window.region ≠ .ring ring :=
      avoids _ (List.mem_map_of_mem member)
    simp only [Bench.step]
    rw [same, told.bytes_tryTransfers apart, effect.takes.bytes_eq]
  · have plain (bus : BusId) (stream : Stream) : action ≠ .complete bus stream :=
      fun same => completes ⟨bus, stream, same⟩
    have takes := (grounded.effect plain).takes
    by_cases outside : ∀ given ∈ bench.arrival action, given.window.region ≠ .ring ring
    · exact .inl (takes.bytes_of_ne outside)
    · obtain ⟨given, arrived, inside⟩ : ∃ given ∈ bench.arrival action,
          given.window.region = .ring ring := by
        simpa using outside
      rcases mem_arrival_iff.mp arrived with ⟨bus, rfl, armed⟩ | ⟨request, value, reads, rfl⟩
      · obtain ⟨slot, same⟩ := shelters bus given.window (armed_of_reception armed) inside
        refine .inr ⟨bus, given.data, slot, rfl, same ▸ armed, ?_⟩
        rw [← same]
        exact arrived ▸ takes
      · exact absurd inside (avoids _ reads.handed)

/-- Beside its slots a ring is never written. -/
theorem not_covers_padding {slot : Fin 2} {data : List UInt8} {position : Nat}
    (beside : 6 ≤ position % 8)
    : ¬ Arrival.Covers ⟨Sensor.captureWindow ring slot, data⟩ (.ring ring) position := by
  rintro ⟨-, early, late⟩
  simp only [Sensor.captureWindow, SampleRing.slotOffset, SampleRing.slotStride,
    SampleRing.captureLength] at early late
  omega

/-- The ring is left to its sensor, and beside its slots it is what it was in the beginning. -/
structure Pads (ring : Nat) (start bench : Bench) : Prop where
  grounded : bench.Grounded
  shelters : bench.Shelters ring
  padding
    : ∀ position, 6 ≤ position % 8
      → (bench.master.memory.bytes (.ring ring))[position]?
        = (start.master.memory.bytes (.ring ring))[position]?

theorem Pads.step {start : Bench} (pads : start.Pads ring bench)
    (avoids : bench.Avoids ring action)
    : start.Pads ring (bench.step action).2 := by
  refine ⟨pads.grounded.step action, pads.shelters.step pads.grounded avoids, ?_⟩
  intro position beside
  rw [← pads.padding position beside]
  rcases pads.shelters.bytes pads.grounded avoids with same | ⟨bus, data, slot, -, -, takes⟩
  · rw [same]
  · refine takes.kept (.ring ring) position (fun given arrived => ?_)
    cases arrived
    exact not_covers_padding beside

/-- Nothing is armed on a bench that was just assembled. -/
theorem pads_assemble (capacity : Fin 255) (paces : PerBus (Option Pace))
    (buffers : List (List UInt8)) (sensors : List (Config × Nat)) (ring : Nat)
    : (assemble capacity paces buffers sensors).Pads ring
        (assemble capacity paces buffers sensors) where
  grounded := grounded_assemble capacity paces buffers sensors
  shelters := by
    rintro id window ⟨peripheral, stream, here, armed⟩ -
    have fresh : (paces.get id).map Peripheral.new = some peripheral := by
      simpa [assemble, Bench.new, Master.new, Master.peripheral?, Master.bus, Bus.new] using here
    obtain ⟨pace, -, rfl⟩ := Option.map_eq_some_iff.mp fresh
    simp [Peripheral.new] at armed
  padding _ _ := rfl

-----------------------------------------------------------------------------------------
-- Every run
-----------------------------------------------------------------------------------------

/-- Bytes are sent out as they are when they are drained, but only the first of them are told. -/
theorem result_drain {bus : BusId} {peripheral : Peripheral} {window : Window}
    (here : bench.master.peripheral? bus = some peripheral)
    (armed : peripheral.armed = some (.tx, window))
    : (bench.step (.drain bus)).1.result
      = .sent (some (((bench.master.memory.bytes window.region).drop window.offset).take
          (min window.length 64))) := by
  simp only [Bench.step, drain, withPeripheral, here, Peripheral.drain, Peripheral.takeArmed, armed,
    if_true, Option.map_some, Answer.ofResult, Memory.read, List.take_take,
    Peripheral.sentCapacity, Nat.min_comm]

/-- Whatever is done in a run, bytes change only where some arrive, and these are bytes that are
delivered where they are armed, or the one byte that was received by a read into a window of one
byte when the read ends. A completion changes none by itself; the transfers that its client asks for
happen after it one by one. What is sent out stands in the memory then.

A ring that clients hand out no window of is written by deliveries only, each in one slot, and
beside its slots it stays what it was in the beginning.
-/
theorem bytes_change_by_arrival (capacity : Fin 255) (paces : PerBus (Option Pace))
    (buffers : List (List UInt8)) (sensors : List (Config × Nat)) (actions : List Action)
    : let start := assemble capacity paces buffers sensors
      let bench := (start.run actions).2
      (∀ action, (∀ bus stream, action ≠ .complete bus stream)
        → bench.master.memory.Takes (bench.arrival action) (bench.step action).2.master.memory)
      ∧ (∀ bus stream, ∃ told,
          bench.master.memory.Takes none told.memory
          ∧ (bench.step (.complete bus stream)).2
            = (run { bench with master := told }
                ((bench.master.asked bus stream).map .tryTransfer)).2)
      ∧ (∀ (other : Bench) request,
          other.master.memory.Takes (other.arrival (.tryTransfer request))
            (other.step (.tryTransfer request)).2.master.memory)
      ∧ (∀ (other : Bench) action given,
          given ∈ other.arrival action
          ↔ (∃ bus, action = .deliver bus given.data ∧ other.reception bus = some given.window)
            ∨ ∃ request value,
                other.Reads action request value ∧ given = ⟨request.window, [value]⟩)
      ∧ (∀ bus peripheral window,
          bench.master.peripheral? bus = some peripheral
          → peripheral.armed = some (.tx, window)
          → (bench.step (.drain bus)).1.result
            = .sent (some (((bench.master.memory.bytes window.region).drop window.offset).take
                (min window.length 64))))
      ∧ ∀ ring,
          Follows (fun bench action => bench.Avoids ring action) start actions
          → (∀ action, bench.Avoids ring action
              → let next := (bench.step action).2
                next.master.memory.bytes (.ring ring) = bench.master.memory.bytes (.ring ring)
                ∨ ∃ bus data slot,
                    action = .deliver bus data
                    ∧ bench.reception bus = some (Sensor.captureWindow ring slot)
                    ∧ ∀ position, position < 8 * slot.val ∨ 8 * slot.val + 6 ≤ position
                      → (next.master.memory.bytes (.ring ring))[position]?
                        = (bench.master.memory.bytes (.ring ring))[position]?)
            ∧ ∀ position, 6 ≤ position % 8
              → (bench.master.memory.bytes (.ring ring))[position]?
                = (start.master.memory.bytes (.ring ring))[position]? := by
  intro start bench
  have grounded : bench.Grounded :=
    (grounded_assemble capacity paces buffers sensors).run actions
  refine ⟨fun action plain => (grounded.effect plain).takes, ?_, ?_,
    fun other action given => mem_arrival_iff, fun bus peripheral window => result_drain, ?_⟩
  · intro bus stream
    obtain ⟨told, effect, same⟩ := bench.master.complete_eq bus stream
    refine ⟨told, effect.takes, ?_⟩
    rw [run_tryTransfers]
    exact congrArg (fun master => { bench with master }) same
  · exact fun other request => (other.effect_tryTransfer request).takes
  · intro ring follows
    have pads : start.Pads ring bench :=
      follows.preserve (fun _ _ pads avoids => pads.step avoids)
        (pads_assemble capacity paces buffers sensors ring)
    refine ⟨fun action avoids => ?_, pads.padding⟩
    rcases pads.shelters.bytes pads.grounded avoids with
      same | ⟨bus, data, slot, same, armed, takes⟩
    · exact .inl same
    · refine .inr ⟨bus, data, slot, same, armed, fun position outside => ?_⟩
      refine takes.kept (.ring ring) position (fun given arrived => ?_)
      cases arrived
      rintro ⟨-, early, late⟩
      simp only [Sensor.captureWindow, SampleRing.slotOffset, SampleRing.slotStride,
        SampleRing.captureLength] at early late
      omega

/-- More bytes are delivered for a capture than its slot has room for. After it one byte is read
into the second byte of a buffer.
-/
theorem bytes_change_by_arrival_beside_slots
    : let sensors : List (Config × Nat) := [(.factory, 0)]
      let actions : List Action :=
        [.sensor 0 .register, .register ⟨.i2c1, 0x50, .none⟩,
          .arrange .i2c1 (.fallback identityCode),
          .sensor 0 (.bringUp ⟨.replicate 32 0⟩ false none), .sensor 0 .enable,
          .sensor 0 .dataReady, .deliver .i2c1 [1, 2, 3, 4, 5, 6, 7, 8], .complete .i2c1 .rx]
      let start := assemble 2 ⟨some .instant, none, none⟩ [[7, 7]] sensors
      let bench := (start.run actions).2
      let read : Action := .tryTransfer ⟨.read, ⟨1⟩, ⟨.bits8, 3⟩, ⟨.buffer 0, 1, 1⟩⟩
      bench.Avoids 0 read
      ∧ (bench.master.memory.bytes (.ring 0)).take 8 = [1, 2, 3, 4, 5, 6, 0, 0]
      ∧ (bench.master.memory.bytes (.ring 0))[6]? = (start.master.memory.bytes (.ring 0))[6]?
      ∧ (bench.step read).2.master.memory.bytes (.buffer 0) = [7, identityCode]
      ∧ bench.master.memory.Takes (bench.arrival read) (bench.step read).2.master.memory := by
  intro sensors actions start bench read
  have follows : Follows (fun bench action => bench.Avoids 0 action) start actions :=
    ⟨by decide +kernel, by decide +kernel, by decide +kernel, by decide +kernel,
      by decide +kernel, by decide +kernel, by decide +kernel, by decide +kernel, True.intro⟩
  obtain ⟨frame, -, -, -, -, rings⟩ :=
    bytes_change_by_arrival 2 ⟨some .instant, none, none⟩ [[7, 7]] sensors actions
  refine ⟨by decide +kernel, by decide +kernel, ?_, by decide +kernel, ?_⟩
  · dsimp only [bench, start]
    exact (rings 0 follows).2 6 (by decide)
  · dsimp only [bench, start]
    exact frame read (by simp [read])

end Bench

end TwoWire
