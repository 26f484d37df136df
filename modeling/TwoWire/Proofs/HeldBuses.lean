import TwoWire.Proofs.BusOwnership
import TwoWire.Proofs.Turns

/-! A bus that a probe holds while it pauses.

Whatever else is done, nobody says anything on such a bus. Requests find it busy, its streams are
quiet, and it was brought up before. What remains is done by hand: its slaves are given other
arrangements, its records are erased, or a transfer-complete flag is read that is not set.
-/

namespace TwoWire

open Magnetometer

-----------------------------------------------------------------------------------------
-- Requests leave a busy bus alone
-----------------------------------------------------------------------------------------

namespace Master

variable {master next : Master} {id : BusId} {owner : Handle}

/-- What is served is served on idle buses, by induction over it. -/
theorem Serves.bus_of_held {origin : Origin} {allowed : Operation → Prop} {handles : List Handle}
    (serves : Serves origin allowed master handles next)
    (held : (master.bus id).owner = some owner)
    : next.bus id = master.bus id := by
  induction serves with
  | done => rfl
  | @next master slave _ _ middle _ _ _ _ accepted _ ih =>
      have same : middle.bus id = master.bus id := by
        obtain ⟨peripheral, after, memory, free, -, -, rfl⟩ := eq_of_attempt accepted
        refine PerBus.get_set_of_ne ?_
        rintro rfl
        simp [free] at held
      exact (ih (same ▸ held)).trans same

theorem bus_tryTransfer_of_held (held : (master.bus id).owner = some owner) (request : Request)
    : (master.tryTransfer request).2.bus id = master.bus id := by
  have serves
      : Serves .client (fun _ => True) master _ (master.tryTransfer request).2 :=
    master.serves_tryTransfer True.intro
  exact serves.bus_of_held held

/-- A probe waits as long as the bus of its slave is busy. -/
theorem claimStandby_of_held {slave : Slave}
    (held : (master.bus slave.bus).owner = some owner) (handle : Handle) (delay : Delay)
    : master.claimStandby handle slave delay
      = (.pending (.claiming handle slave), delay, master) := by
  have refused : (master.bus slave.bus).claim (.probe handle) = none := by
    cases claimed : (master.bus slave.bus).claim (.probe handle) with
    | none => rfl
    | some bus =>
        have free := (Bus.eq_of_claim claimed).1
        simp [free] at held
  simp only [claimStandby, refused]

/-- A probe that finds the bus of its slave idle is given it and makes its trials. -/
theorem claimStandby_of_free {slave : Slave} {handle : Handle} {peripheral : Peripheral}
    (free : (master.bus slave.bus).owner = none)
    (here : master.peripheral? slave.bus = some peripheral)
    (proper : handle.code ≠ HandleCell.vacant) (delay : Delay)
    : ∃ bus : Bus,
        bus.owner = some handle
        ∧ master.claimStandby handle slave delay
          = (master.setBus slave.bus bus).settleStandby slave
              (Retry.run Standby.interval (·.probe slave.address) Standby.trials peripheral
                delay) := by
  have vacant : (master.bus slave.bus).active.load = none := free
  cases claimed : (master.bus slave.bus).claim (.probe handle) with
  | none => simp [Bus.claim, HandleCell.trySet_of_load_eq_none vacant] at claimed
  | some bus =>
      refine ⟨bus, ?_, by simp only [claimStandby, claimed, here]⟩
      rw [(Bus.eq_of_claim claimed).2]
      exact HandleCell.load_store_some proper

theorem bus_claimStandby_of_held (held : (master.bus id).owner = some owner) (handle : Handle)
    (slave : Slave) (delay : Delay)
    : (master.claimStandby handle slave delay).2.2.bus id = master.bus id := by
  by_cases here : id = slave.bus
  · subst here
    rw [claimStandby_of_held held]
  · exact (master.polls_claimStandby handle slave delay).same.bus_of_ne here

theorem bus_startStandby_of_held (held : (master.bus id).owner = some owner) (handle : Handle)
    (delay : Delay)
    : (master.startStandby handle delay).2.2.bus id = master.bus id := by
  unfold startStandby
  cases master.resolve handle with
  | error cause => rfl
  | ok slave => exact bus_claimStandby_of_held held handle slave delay

/-- Whoever is told about a completion can only ask for transfers. -/
theorem bus_notify_of_held (held : (master.bus id).owner = some owner) (handle : Handle)
    (slave : Slave)
    : (master.notify handle slave).2.bus id = master.bus id := by
  unfold notify
  cases slave.reaction with
  | none | advanceRing => rfl
  | call tag requests =>
      have serves
          : Serves .client (fun _ => True) master _
              (master.tryTransfers (requests master.buses master.memory)).2 :=
        master.serves_tryTransfers (fun _ _ => True.intro)
      exact serves.bus_of_held held

/-- A completion on another bus is a matter of that bus and of those who are told. -/
theorem bus_complete_of_held (held : (master.bus id).owner = some owner) {other : BusId}
    (apart : id ≠ other) (stream : Stream)
    : (master.complete other stream).2.bus id = master.bus id := by
  have elsewhere (bus : Bus) : (master.setBus other bus).bus id = master.bus id :=
    PerBus.get_set_of_ne apart
  unfold complete
  cases master.peripheral? other with
  | none => rfl
  | some peripheral =>
      dsimp only
      split
      · split
        · exact elsewhere _
        · split
          · exact elsewhere _
          · exact (bus_notify_of_held ((congrArg Bus.owner (elsewhere _)).trans held) _ _).trans
              (elsewhere _)
      · exact elsewhere _

-----------------------------------------------------------------------------------------
-- Buses that are up stay as they are
-----------------------------------------------------------------------------------------

theorem configureOnce_of_configured {bus : Bus} (up : bus.configured = true)
    : bus.configureOnce = bus := by
  unfold Bus.configureOnce
  cases bus.peripheral <;> simp [up]

theorem bus_configureAll_of_configured (up : (master.bus id).configured = true)
    : master.configureAll.bus id = master.bus id := by
  simpa [configureAll, bus] using configureOnce_of_configured up

theorem bus_register_of_configured (up : (master.bus id).configured = true) (slave : Slave)
    : (master.register slave).2.bus id = master.bus id := by
  have ready
      : (master.setBus slave.bus (master.bus slave.bus).configureOnce).bus id = master.bus id := by
    by_cases here : id = slave.bus
    · subst here
      rw [bus_setBus_self, configureOnce_of_configured up]
    · exact PerBus.get_set_of_ne here
  unfold register
  split
  · rfl
  · split
    · rfl
    · dsimp only
      split <;> exact ready

end Master

/-- An edge asks for a transfer or for nothing. -/
theorem Magnetometer.Sensor.bus_dataReady_of_held {master : Master} {id : BusId} {owner : Handle}
    (held : (master.bus id).owner = some owner) (sensor : Sensor)
    : (sensor.dataReady master).bus id = master.bus id := by
  unfold dataReady
  split
  · split
    · rfl
    · exact Master.bus_tryTransfer_of_held held _
  · rfl

-----------------------------------------------------------------------------------------
-- What is done beside a probe that holds its bus
-----------------------------------------------------------------------------------------

/-- What becomes of a bus that is left to the probe that holds it. -/
inductive Bus.Rests (id : BusId) (bus : Bus) : Action → Bus → Prop
  | untouched {action} : Rests id bus action bus
  | arranged {peripheral arrangement} (here : bus.peripheral = some peripheral)
    : Rests id bus (.arrange id arrangement)
        { bus with peripheral := some (peripheral.arrange arrangement) }
  | erased {peripheral} (here : bus.peripheral = some peripheral)
    : Rests id bus (.forget id) { bus with peripheral := some peripheral.forget }
  | unset {peripheral stream} (here : bus.peripheral = some peripheral)
    (flag : peripheral.completed stream = false)
    : Rests id bus (.complete id stream)
        { bus with peripheral := some (peripheral.takeCompleted stream).2 }

namespace Bus.Rests

variable {id : BusId} {bus next : Bus} {action : Action}

theorem owner (rests : bus.Rests id action next)
    : next.owner = bus.owner := by
  cases rests <;> rfl

/-- Nothing is said, by cases on what was done. -/
theorem silent {master later : Master} (rests : (master.bus id).Rests id action (later.bus id))
    : master.saidUntil later id = [] := by
  generalize there : later.bus id = after at rests
  cases rests with
  | untouched => exact Master.saidUntil_of_bus there
  | @arranged peripheral arrangement here =>
      exact Master.saidUntil_of_commands here (congrArg Bus.peripheral there)
        (peripheral.says_arrange arrangement).commands
  | @erased peripheral here =>
      have erased : later.peripheral? id = some peripheral.forget :=
        congrArg Bus.peripheral there
      have present : master.peripheral? id = some peripheral := here
      simp [Master.saidUntil, present, erased, Peripheral.forget, Peripheral.commands]
  | unset here flag =>
      exact Master.saidUntil_of_commands here (congrArg Bus.peripheral there)
        (Peripheral.says_takeCompleted flag).commands

/-- Slaves answer as before unless other arrangements are made. -/
theorem script (rests : bus.Rests id action next)
    (calm : ∀ arrangement, action ≠ .arrange id arrangement)
    : next.peripheral.map Peripheral.script = bus.peripheral.map Peripheral.script := by
  cases rests with
  | untouched => rfl
  | @arranged _ arrangement => exact absurd rfl (calm arrangement)
  | erased here => simp [here, Peripheral.forget]
  | @unset peripheral stream here =>
      cases stream <;>
        simp [here, Peripheral.takeCompleted, Peripheral.setCompleted, Peripheral.observe]

end Bus.Rests

namespace Bench

variable {bench : Bench} {trials : PerBus (Option Nat)} {number : Nat} {slave : Slave}
  {paused : Retry.Paused} {delay : Delay} {action : Action}

/-- What is done with the peripheral of another bus leaves this one alone. -/
theorem bus_withPeripheral_of_ne {id other : BusId} (apart : id ≠ other)
    (act : Peripheral → Result × Peripheral)
    : (bench.withPeripheral other act).2.master.bus id = bench.master.bus id := by
  unfold withPeripheral
  cases bench.master.peripheral? other with
  | none => rfl
  | some peripheral => exact PerBus.get_set_of_ne apart

/-- No bytes arrive on a bus on which nothing is armed. -/
theorem bus_deliver_of_unarmed {id : BusId}
    (unarmed
      : ∀ peripheral, bench.master.peripheral? id = some peripheral → peripheral.armed = none)
    (other : BusId) (data : List UInt8)
    : (bench.deliver other data).2.master.bus id = bench.master.bus id := by
  unfold deliver
  cases here : bench.master.peripheral? other with
  | none => rfl
  | some peripheral =>
      by_cases same : id = other
      · subst same
        simp [Peripheral.deliver, Peripheral.takeArmed, unarmed peripheral here]
      · dsimp only
        cases peripheral.deliver bench.master.memory data with
        | none => rfl
        | some landed => exact PerBus.get_set_of_ne same

theorem bus_drain_of_unarmed {id : BusId}
    (unarmed
      : ∀ peripheral, bench.master.peripheral? id = some peripheral → peripheral.armed = none)
    (other : BusId)
    : (bench.drain other).2.master.bus id = bench.master.bus id := by
  by_cases same : id = other
  · subst same
    unfold drain withPeripheral
    cases here : bench.master.peripheral? id with
    | none => rfl
    | some peripheral =>
        have present : (bench.master.bus id).peripheral = some peripheral := here
        simp [Peripheral.drain, Peripheral.takeArmed, unarmed peripheral here,
          Master.setPeripheral, ← present]
  · exact bus_withPeripheral_of_ne same _

/-- Whatever is done with a sensor, a bus that is up and busy is left alone. -/
theorem bus_stepSensor_of_held {id : BusId} {owner : Handle}
    (up : (bench.master.bus id).configured = true)
    (held : (bench.master.bus id).owner = some owner) (index : Nat) (sensor : Sensor)
    (action : SensorAction)
    : (bench.stepSensor index sensor action).2.master.bus id = bench.master.bus id := by
  cases action with
  | register =>
      simp only [stepSensor, Sensor.register]
      split
      · have registered := Master.bus_register_of_configured up sensor.slave
        generalize bench.master.register sensor.slave = progress at registered ⊢
        obtain ⟨outcome, next⟩ := progress
        cases outcome <;> exact registered
      · rfl
  | bringUp table schedule number =>
      have goes := sensor.goes_startBringUp table (.new schedule) bench.master
      simp only [stepSensor, master_settleBringUp]
      exact goes.serves.bus_of_held held
  | enable | disable | decode => rfl
  | dataReady => exact sensor.bus_dataReady_of_held held

/-- A probe that pauses is left alone on its bus, by cases on what is done meanwhile. -/
theorem Tracks.rests (tracks : bench.Tracks .any trials)
    (pauses : bench.task? number = some (.standby (.pausing slave paused) delay))
    (orderly : action.Orderly) (apart : action.names? ≠ some number)
    : (bench.master.bus slave.bus).Rests slave.bus action
        ((bench.step action).2.master.bus slave.bus) := by
  have untouched {next : Bus} (same : next = bench.master.bus slave.bus)
      : (bench.master.bus slave.bus).Rests slave.bus action next :=
    same ▸ .untouched
  obtain ⟨budget, handle, found, held⟩ := tracks.tasks _ (mem_tasks_of_task? pauses)
  obtain ⟨up, peripheral, here⟩ := tracks.coherent.homes found
  have buses := tracks.coherent.buses slave.bus
  rw [budget] at buses
  have quiet : peripheral.streams = .quiet := (buses.quiet_of_trials here).1
  have unarmed (other : Peripheral) (there : bench.master.peripheral? slave.bus = some other)
      : other.armed = none := by
    obtain rfl := Option.some.inj (here.symm.trans there)
    exact congrArg StreamState.armed quiet
  cases action with
  | raise | manual => exact orderly.elim
  | configureAll => exact untouched (Master.bus_configureAll_of_configured up)
  | register other => exact untouched (Master.bus_register_of_configured up other)
  | tryTransfer request => exact untouched (Master.bus_tryTransfer_of_held held request)
  | start operation other =>
      have settles
          : bench.master.Settles .client (fun _ => True) operation
              (bench.master.start operation) :=
        bench.master.settles_start True.intro
      simp only [Bench.step, master_settleOperation]
      exact untouched (settles.serves.bus_of_held held)
  | standby other schedule place =>
      simp only [Bench.step, master_settleStandby]
      exact untouched (Master.bus_startStandby_of_held held other _)
  | poll other =>
      have apart : other ≠ number := fun same => apart (congrArg some same)
      simp only [Bench.step]
      cases polled : bench.task? other with
      | none => exact .untouched
      | some task =>
          have sound := tracks.tasks _ (mem_tasks_of_task? polled)
          cases task with
          | operation rest =>
              have settles
                  : bench.master.Settles .client (fun _ => True) rest.operation
                      (bench.master.resume rest) :=
                Master.settles_resume True.intro sound.2
              simp only [resume, master_settleOperation]
              exact untouched (settles.serves.bus_of_held held)
          | standby rest later =>
              simp only [resume, master_settleStandby]
              cases rest with
              | claiming another guest =>
                  exact untouched (Master.bus_claimStandby_of_held held another guest later)
              | pausing guest left =>
                  have elsewhere : slave.bus ≠ guest.bus := by
                    intro same
                    exact apart (tracks.probing_unique ⟨guest, left, later, polled, same.symm⟩
                      ⟨slave, paused, delay, pauses, rfl⟩)
                  have polls := bench.master.polls_resumeStandby (.pausing guest left) later
                  exact untouched (polls.same.bus_of_ne elsewhere)
          | bringUp index rest later =>
              simp only [resume]
              cases (bench.discard other).sensors[index]? with
              | none => exact .untouched
              | some sensor =>
                  have goes : BringUp.Goes bench.master
                      (rest.resume sensor.config later bench.master) :=
                    BringUp.goes_resume sound later
                  simp only [master_settleBringUp]
                  exact untouched (goes.serves.bus_of_held held)
  | drop other => exact .untouched
  | complete other stream =>
      by_cases same : other = slave.bus
      · subst same
        have flag : peripheral.completed stream = false := by
          rw [← peripheral.completed_streams, quiet]
          cases stream <;> rfl
        simp only [Bench.step, Master.complete_of_unset here flag, Master.setPeripheral,
          Master.bus_setBus_self]
        exact .unset here flag
      · exact untouched (Master.bus_complete_of_held held (Ne.symm same) stream)
  | advanceRing index =>
      simp only [Bench.step]
      cases bench.sensors[index]? <;> exact .untouched
  | arrange other arrangement =>
      by_cases same : other = slave.bus
      · subst same
        simp only [Bench.step, withPeripheral, here, Master.setPeripheral, Master.bus_setBus_self]
        exact .arranged here
      · exact untouched (bus_withPeripheral_of_ne (Ne.symm same) _)
  | forget other =>
      by_cases same : other = slave.bus
      · subst same
        simp only [Bench.step, withPeripheral, here, Master.setPeripheral, Master.bus_setBus_self]
        exact .erased here
      · exact untouched (bus_withPeripheral_of_ne (Ne.symm same) _)
  | deliver other data => exact untouched (bus_deliver_of_unarmed unarmed other data)
  | drain other => exact untouched (bus_drain_of_unarmed unarmed other)
  | sensor index action =>
      simp only [Bench.step]
      cases bench.sensors[index]? with
      | none => exact .untouched
      | some sensor => exact untouched (bus_stepSensor_of_held up held index sensor action)

end Bench

end TwoWire
