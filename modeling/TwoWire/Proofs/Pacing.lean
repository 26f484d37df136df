import TwoWire.Proofs.Promptness
import TwoWire.Proofs.Runs

/-! Runs on benches whose peripherals answer at different paces.

Two such benches match as long as they differ in nothing but the pace of their peripherals and the
questions about their status. Every action is answered alike on both and lets them match again, and
so does every run.
-/

namespace TwoWire

open Magnetometer

-----------------------------------------------------------------------------------------
-- Masters that match
-----------------------------------------------------------------------------------------

/-- Two buses differ in nothing but how their peripherals answer. -/
structure Bus.Matches (bus other : Bus) : Prop where
  active : bus.active = other.active
  served : bus.served = other.served
  configured : bus.configured = other.configured
  peripheral : Option.Rel Peripheral.Matches bus.peripheral other.peripheral

/-- A client that is called asks for the same however its peripherals answered. -/
def Reaction.Heedless : Reaction → Prop
  | .call _ requests =>
    ∀ buses others memory,
      (∀ id, (PerBus.get buses id).Matches (PerBus.get others id))
      → requests buses memory = requests others memory
  | .none | .advanceRing _ => True

namespace Master

/-- Two masters differ in nothing but how their peripherals answer, and their clients are heedless
of that.
-/
structure Matches (master other : Master) : Prop where
  slaves : master.slaves = other.slaves
  memory : master.memory = other.memory
  buses : ∀ id, (master.bus id).Matches (other.bus id)
  heedless : ∀ slave ∈ master.slaves.entries, slave.reaction.Heedless

/-- What two masters do is answered alike and lets them match. -/
structure Concur {α : Type} (outcome other : α × Master) : Prop where
  answer : outcome.1 = other.1
  next : outcome.2.Matches other.2

end Master

namespace Bus

variable {bus other : Bus} {peripheral another : Peripheral}

theorem Matches.setPeripheral (same : bus.Matches other) (fits : peripheral.Matches another)
    : { bus with peripheral := some peripheral }.Matches
        { other with peripheral := some another } :=
  { same with peripheral := .some fits }

theorem Matches.claim (same : bus.Matches other) (transaction : Transaction)
    : Option.Rel Bus.Matches (bus.claim transaction) (other.claim transaction) := by
  unfold Bus.claim
  rw [same.active, same.served]
  split
  split
  · exact .some { same with
      active := rfl
      served := rfl }
  · exact .none

theorem Matches.release (same : bus.Matches other)
    : bus.release.1 = other.release.1 ∧ bus.release.2.Matches other.release.2 := by
  unfold Bus.release
  rw [same.active]
  exact ⟨rfl, { same with active := rfl }⟩

/-- Either bus has a peripheral, or neither has. -/
theorem Matches.cases (same : bus.Matches other)
    : (bus.peripheral = none ∧ other.peripheral = none)
      ∨ ∃ here there : Peripheral,
          bus.peripheral = some here ∧ other.peripheral = some there ∧ here.Matches there := by
  have peripheral := same.peripheral
  generalize bus.peripheral = one, other.peripheral = two at peripheral
  cases peripheral with
  | none => exact .inl ⟨rfl, rfl⟩
  | some fits => exact .inr ⟨_, _, rfl, rfl, fits⟩

theorem Matches.configureOnce (same : bus.Matches other)
    : bus.configureOnce.Matches other.configureOnce := by
  unfold Bus.configureOnce
  rw [same.configured]
  rcases same.cases with ⟨here, there⟩ | ⟨_, _, here, there, fits⟩
  · simp only [here, there]
    exact same
  · simp only [here, there]
    split
    · exact same
    · exact { same with
        configured := rfl
        peripheral := .some (fits.issue .configure) }

end Bus

/-- An operation drives two peripherals alike: it is answered by the same and leaves the same in
memory.
-/
theorem Operation.drive_matches {peripheral another : Peripheral} (operation : Operation)
    (address : UInt8) (memory : Memory) (fits : peripheral.Matches another)
    : (operation.drive address peripheral memory).1 = (operation.drive address another memory).1
      ∧ (operation.drive address peripheral memory).2.1.Matches
          (operation.drive address another memory).2.1
      ∧ (operation.drive address peripheral memory).2.2
        = (operation.drive address another memory).2.2 := by
  cases operation with
  | transfer request =>
      obtain ⟨kind, handle, register, window⟩ := request
      cases kind with
      | read =>
          simp only [drive]
          split
          · exact ⟨rfl, fits.openRead address register window, rfl⟩
          · obtain ⟨value, next⟩ := fits.readRegister address register
            exact ⟨rfl, next, congrArg (fun byte => memory.write window [byte]) value⟩
      | write =>
          simp only [drive]
          split
          · exact ⟨rfl, fits.openWrite address register window, rfl⟩
          · exact ⟨rfl, fits.writeRegister address register (memory.first window), rfl⟩
  | readByte handle register =>
      obtain ⟨value, next⟩ := fits.readRegister address register
      exact ⟨congrArg Reply.byte value, next, rfl⟩
  | writeByte handle register value =>
      exact ⟨rfl, fits.writeRegister address register value, rfl⟩

namespace Master

variable {master other : Master} {α : Type}

theorem Matches.setBus {bus another : Bus} (same : master.Matches other) (id : BusId)
    (fits : bus.Matches another)
    : (master.setBus id bus).Matches (other.setBus id another) where
  slaves := same.slaves
  memory := same.memory
  buses place := by
    by_cases own : place = id
    · subst own
      simpa only [Master.bus, Master.setBus, PerBus.get_set_self] using fits
    · simpa only [Master.bus, Master.setBus, PerBus.get_set_of_ne own] using same.buses place
  heedless := same.heedless

theorem Matches.setMemory (same : master.Matches other) (memory : Memory)
    : { master with memory }.Matches { other with memory } :=
  { same with memory := rfl }

theorem Matches.setPeripheral {peripheral another : Peripheral} (same : master.Matches other)
    (id : BusId) (fits : peripheral.Matches another)
    : (master.setPeripheral id peripheral).Matches (other.setPeripheral id another) :=
  same.setBus id ((same.buses id).setPeripheral fits)

theorem Matches.isBusy (same : master.Matches other) (id : BusId)
    : (master.bus id).isBusy = (other.bus id).isBusy :=
  congrArg HandleCell.isSome (same.buses id).active

theorem Matches.concur (same : master.Matches other) (answer : α)
    : Concur (answer, master) (answer, other) :=
  ⟨rfl, same⟩

theorem Matches.present (same : master.Matches other) (id : BusId)
    : (master.peripheral? id).isNone = (other.peripheral? id).isNone := by
  unfold peripheral?
  rcases (same.buses id).cases with ⟨here, there⟩ | ⟨_, _, here, there, -⟩
  · rw [here, there]
  · rw [here, there]
    rfl

theorem Matches.resolve (same : master.Matches other) (handle : Handle)
    : master.resolve handle = other.resolve handle := by
  unfold Master.resolve
  rw [same.slaves]
  split
  · rfl
  · rw [same.present]

theorem Matches.configureAll (same : master.Matches other)
    : master.configureAll.Matches other.configureAll where
  slaves := same.slaves
  memory := same.memory
  buses id := by
    simpa only [Master.bus, Master.configureAll, PerBus.get_ofFn]
      using (same.buses id).configureOnce
  heedless := same.heedless

theorem Matches.register {slave : Slave} (same : master.Matches other)
    (heedless : slave.reaction.Heedless)
    : Concur (master.register slave) (other.register slave) := by
  unfold Master.register
  rw [same.present]
  split
  · exact same.concur _
  · split
    · exact same.concur _
    · have ready := same.setBus slave.bus (same.buses slave.bus).configureOnce
      dsimp only
      rw [same.slaves]
      cases entered : other.slaves.insert slave with
      | error cause => exact ready.concur _
      | ok outcome =>
          obtain ⟨handle, slaves⟩ := outcome
          refine ⟨rfl, { ready with
            slaves := rfl
            heedless := ?_ }⟩
          obtain ⟨-, rfl⟩ := SlaveTable.eq_append_of_insert entered
          intro known member
          rcases List.mem_append.mp member with before | new
          · exact same.heedless known (same.slaves ▸ before)
          · rwa [List.mem_singleton.mp new]

/-- An attempt is made on both masters or on neither. -/
theorem Matches.attempt (same : master.Matches other) (slave : Slave) (operation : Operation)
    : Option.Rel Concur (master.attempt slave operation) (other.attempt slave operation) := by
  have claimed := (same.buses slave.bus).claim (operation.transaction other.memory)
  unfold Master.attempt
  rw [same.memory]
  dsimp only
  generalize (master.bus slave.bus).claim (operation.transaction other.memory) = one,
    (other.bus slave.bus).claim (operation.transaction other.memory) = two at claimed ⊢
  cases claimed with
  | none => exact .none
  | @some bus another taken =>
      rcases taken.cases with ⟨here, there⟩ | ⟨_, _, here, there, fits⟩
      · simp only [Option.bind_eq_bind, Option.bind_some, here, there]
        exact .none
      · obtain ⟨reply, next, memory⟩ := operation.drive_matches slave.address other.memory fits
        have driven := taken.setPeripheral next
        simp only [Option.bind_eq_bind, Option.bind_some, here, there, Option.pure_def]
        rw [reply, memory]
        refine .some ⟨rfl, Matches.setMemory (same.setBus slave.bus ?_) _⟩
        split
        · exact driven
        · exact driven.release.2

theorem Matches.start (same : master.Matches other) (operation : Operation)
    : Concur (master.start operation) (other.start operation) := by
  unfold Master.start
  rw [same.resolve]
  split
  · exact same.concur _
  · rename_i slave _
    split
    · exact same.concur _
    · have attempted := same.attempt slave operation
      generalize master.attempt slave operation = one, other.attempt slave operation = two
        at attempted ⊢
      cases attempted with
      | none => exact same.concur _
      | some agreed => exact ⟨by simp only [agreed.answer], agreed.next⟩

theorem Matches.resume (same : master.Matches other) (claiming : Claiming)
    : Concur (master.resume claiming) (other.resume claiming) := by
  have attempted := same.attempt claiming.slave claiming.operation
  unfold Master.resume
  generalize master.attempt claiming.slave claiming.operation = one,
    other.attempt claiming.slave claiming.operation = two at attempted ⊢
  cases attempted with
  | none => exact same.concur _
  | some agreed => exact ⟨by simp only [agreed.answer], agreed.next⟩

theorem Matches.tryTransfer (same : master.Matches other) (request : Request)
    : Concur (master.tryTransfer request) (other.tryTransfer request) := by
  unfold Master.tryTransfer
  rw [same.resolve]
  split
  · exact same.concur _
  · rename_i slave _
    split
    · exact same.concur _
    · have attempted := same.attempt slave (.transfer request)
      generalize master.attempt slave (.transfer request) = one,
        other.attempt slave (.transfer request) = two at attempted ⊢
      cases attempted with
      | none => exact same.concur _
      | some agreed => exact ⟨rfl, agreed.next⟩

/-- Transfers that are asked for one after the other are answered alike, by induction over them. -/
theorem Matches.tryTransfers (same : master.Matches other) (requests : List Request)
    : Concur (master.tryTransfers requests) (other.tryTransfers requests) := by
  induction requests generalizing master other with
  | nil => exact same.concur _
  | cons request rest ih =>
      obtain ⟨answer, next⟩ := same.tryTransfer request
      obtain ⟨answers, last⟩ := ih next
      refine ⟨?_, last⟩
      simp only [Master.tryTransfers]
      rw [answer, answers]

/-- A slave is told the same, and since it is heedless it asks for the same. -/
theorem Matches.notify (same : master.Matches other) (handle : Handle) {slave : Slave}
    (heedless : slave.reaction.Heedless)
    : Concur (master.notify handle slave) (other.notify handle slave) := by
  unfold Master.notify
  rw [same.isBusy, same.memory]
  cases reaction : slave.reaction with
  | none => exact same.concur _
  | advanceRing index => exact (same.setMemory _).concur _
  | call tag requests =>
      rw [reaction] at heedless
      have asked : requests master.buses other.memory = requests other.buses other.memory :=
        heedless _ _ _ same.buses
      obtain ⟨answers, next⟩ := same.tryTransfers (requests other.buses other.memory)
      dsimp only
      rw [asked]
      exact ⟨by rw [answers], next⟩

theorem Matches.complete (same : master.Matches other) (id : BusId) (stream : Stream)
    : Concur (master.complete id stream) (other.complete id stream) := by
  unfold Master.complete peripheral?
  rcases (same.buses id).cases with ⟨here, there⟩ | ⟨one, two, here, there, fits⟩
  · simp only [here, there]
    exact same.concur _
  · obtain ⟨seen, taken⟩ := fits.takeCompleted stream
    simp only [here, there, seen]
    split
    · have closed := (same.buses id).setPeripheral (taken.closeFrame stream)
      obtain ⟨owner, idle⟩ := closed.release
      have freed := same.setBus id idle
      rw [owner]
      split
      · exact freed.concur _
      · rw [freed.slaves]
        split
        · exact freed.concur _
        · rename_i handle _ _ slave found
          have known : slave ∈ master.slaves.entries :=
            same.slaves ▸ List.mem_of_getElem? found
          obtain ⟨notice, next⟩ := freed.notify handle (same.heedless slave known)
          exact ⟨congrArg some notice, next⟩
    · exact (same.setPeripheral id taken).concur _

-----------------------------------------------------------------------------------------
-- Probes
-----------------------------------------------------------------------------------------

/-- What takes a delay is answered alike, asks the same of the delay and lets the masters match. -/
structure Accord (outcome another : α × Delay × Master) : Prop where
  answer : outcome.1 = another.1
  delay : outcome.2.1 = another.2.1
  next : outcome.2.2.Matches another.2.2

theorem Matches.accord (same : master.Matches other) (answer : α) (delay : Delay)
    : Accord (answer, delay, master) (answer, delay, other) :=
  ⟨rfl, rfl, same⟩

end Master

/-- Trials of a probe fare alike, by induction on the number of trials that are left. -/
theorem Peripheral.Matches.run {peripheral another : Peripheral}
    (fits : peripheral.Matches another) (interval : Nat) (address : UInt8) (trials : Nat)
    (delay : Delay)
    : let one := Retry.run interval (·.probe address) trials peripheral delay
      let two := Retry.run interval (·.probe address) trials another delay
      one.1 = two.1 ∧ one.2.1.Matches two.2.1 ∧ one.2.2 = two.2.2 := by
  induction trials generalizing peripheral another delay with
  | zero => exact ⟨rfl, fits, rfl⟩
  | succ trials ih =>
      obtain ⟨acknowledged, next⟩ := fits.probe address
      simp only [Retry.run, acknowledged]
      split
      · exact ⟨rfl, next, rfl⟩
      · split
        · exact ⟨rfl, next, rfl⟩
        · split
          · exact ih next _
          · exact ⟨rfl, next, rfl⟩

theorem Peripheral.Matches.resume {peripheral another : Peripheral}
    (fits : peripheral.Matches another) (interval : Nat) (address : UInt8)
    (paused : Retry.Paused) (delay : Delay)
    : let one := Retry.resume interval (·.probe address) paused peripheral delay
      let two := Retry.resume interval (·.probe address) paused another delay
      one.1 = two.1 ∧ one.2.1.Matches two.2.1 ∧ one.2.2 = two.2.2 := by
  unfold Retry.resume
  split
  · exact fits.run interval address paused.trials _
  · exact ⟨rfl, fits, rfl⟩

namespace Master

variable {master other : Master} {α : Type}

theorem Matches.settleStandby {progress another : Poll Retry.Paused Bool × Peripheral × Delay}
    (same : master.Matches other) (slave : Slave) (outcome : progress.1 = another.1)
    (fits : progress.2.1.Matches another.2.1) (delay : progress.2.2 = another.2.2)
    : Accord (master.settleStandby slave progress) (other.settleStandby slave another) := by
  obtain ⟨answer, peripheral, spent⟩ := progress
  obtain ⟨answer, current, spent⟩ := another
  obtain rfl := outcome
  obtain rfl := delay
  cases answer with
  | pending paused => exact (same.setPeripheral slave.bus fits).accord _ _
  | ready acknowledged =>
      have ended := (same.buses slave.bus).setPeripheral (fits.issue .stop)
      cases acknowledged with
      | true =>
          exact Matches.accord
            (same.setBus _ ((same.buses slave.bus).setPeripheral fits).release.2) _ _
      | false => exact Matches.accord (same.setBus _ ended.release.2) _ _

theorem Matches.claimStandby (same : master.Matches other) (handle : Handle) (slave : Slave)
    (delay : Delay)
    : Accord (master.claimStandby handle slave delay)
        (other.claimStandby handle slave delay) := by
  have claimed := (same.buses slave.bus).claim (.probe handle)
  unfold Master.claimStandby peripheral?
  generalize (master.bus slave.bus).claim (.probe handle) = one,
    (other.bus slave.bus).claim (.probe handle) = two at claimed ⊢
  cases claimed with
  | none => exact same.accord _ _
  | some taken =>
      rcases (same.buses slave.bus).cases with ⟨here, there⟩ | ⟨_, _, here, there, fits⟩
      · simp only [here, there]
        exact same.accord _ _
      · obtain ⟨outcome, next, spent⟩ :=
          fits.run Standby.interval slave.address Standby.trials delay
        simp only [here, there]
        exact (same.setBus slave.bus taken).settleStandby slave outcome next spent

theorem Matches.startStandby (same : master.Matches other) (handle : Handle) (delay : Delay)
    : Accord (master.startStandby handle delay) (other.startStandby handle delay) := by
  unfold Master.startStandby
  rw [same.resolve]
  split
  · exact same.accord _ _
  · exact same.claimStandby handle _ delay

theorem Matches.resumeStandby (same : master.Matches other) (standby : Standby) (delay : Delay)
    : Accord (master.resumeStandby standby delay) (other.resumeStandby standby delay) := by
  cases standby with
  | claiming handle slave => exact same.claimStandby handle slave delay
  | pausing slave paused =>
      unfold Master.resumeStandby peripheral?
      rcases (same.buses slave.bus).cases with ⟨here, there⟩ | ⟨_, _, here, there, fits⟩
      · simp only [here, there]
        exact same.accord _ _
      · obtain ⟨outcome, next, spent⟩ :=
          fits.resume Standby.interval slave.address paused delay
        simp only [here, there]
        exact same.settleStandby slave outcome next spent

end Master

-----------------------------------------------------------------------------------------
-- Sensors
-----------------------------------------------------------------------------------------

namespace Magnetometer

open Master (Accord Concur)

namespace BringUp

variable {config : Config} {handle : Handle} {goal : Goal}

/-- It goes on alike on masters that match. -/
def Alike (act : Delay → Master → Progress) : Prop :=
  ∀ ⦃master other : Master⦄ (delay : Delay),
    master.Matches other → Accord (act delay master) (act delay other)

theorem alike_succeed : Alike succeed :=
  fun _ _ delay same => same.accord _ delay

theorem alike_fail : Alike fail :=
  fun _ _ delay same => same.accord _ delay

theorem Alike.afterPause {next : Delay → Master → Progress} (alike : Alike next)
    (slices : List Nat)
    : Alike (afterPause handle goal next slices) := by
  intro master other delay same
  unfold BringUp.afterPause
  split
  · exact alike _ same
  · exact same.accord _ _

theorem accord_afterOperation {next : Reply → Delay → Master → Progress}
    (alike : ∀ reply, Alike (next reply)) (delay : Delay)
    {outcome another : Poll Claiming (Except MasterError Reply) × Master}
    (concur : Concur outcome another)
    : Accord (afterOperation handle goal next delay outcome)
        (afterOperation handle goal next delay another) := by
  obtain ⟨progress, master⟩ := outcome
  obtain ⟨progress, other⟩ := another
  obtain ⟨rfl, same⟩ := concur
  match progress with
  | .pending claiming => exact same.accord _ _
  | .ready (.error cause) => exact same.accord _ _
  | .ready (.ok reply) => exact alike reply delay same

theorem alike_activated (reply : Reply) : Alike (activated config handle reply) :=
  alike_succeed.afterPause _

theorem alike_activate : Alike (activate config handle) :=
  fun _ _ delay same => accord_afterOperation alike_activated delay (same.start _)

theorem alike_resetEnabled (reply : Reply) : Alike (resetEnabled config handle reply) :=
  alike_activate.afterPause _

theorem alike_enableReset : Alike (enableReset config handle) :=
  fun _ _ delay same => accord_afterOperation alike_resetEnabled delay (same.start _)

theorem Alike.identified {again : Delay → Master → Progress} (alike : Alike again) (trials : Nat)
    (reply : Reply)
    : Alike (identified config handle trials again reply) := by
  intro master other delay same
  unfold BringUp.identified
  split
  · exact alike_enableReset delay same
  · split
    · exact alike_fail delay same
    · exact alike.afterPause _ delay same

/-- Reading the identity goes on alike, by induction on the number of trials. -/
theorem alike_identify (trials : Nat) : Alike (identify config handle trials) := by
  induction trials with
  | zero => exact alike_fail
  | succ trials ih =>
      intro master other delay same
      exact accord_afterOperation (ih.identified trials) delay (same.start _)

theorem alike_pursue (goal : Goal) : Alike (pursue config handle goal) := by
  cases goal with
  | identify trials => exact alike_identify trials
  | enableReset => exact alike_enableReset
  | activate => exact alike_activate
  | finish => exact alike_succeed

theorem alike_answered (goal : Goal) (reply : Reply)
    : Alike (answered config handle goal reply) := by
  cases goal with
  | identify trials => exact (alike_identify (trials - 1)).identified (trials - 1) reply
  | enableReset => exact alike_resetEnabled reply
  | activate => exact alike_activated reply
  | finish => exact alike_succeed

theorem alike_resume (bringUp : BringUp) : Alike (bringUp.resume config) := by
  intro master other delay same
  obtain ⟨handle, goal, wait⟩ := bringUp
  cases wait with
  | bus claiming => exact accord_afterOperation (alike_answered goal) delay (same.resume claiming)
  | pause slices => exact (alike_pursue goal).afterPause slices delay same

end BringUp

namespace Sensor

variable {master other : Master}

theorem register_matches (sensor : Sensor) (same : master.Matches other)
    : (sensor.register master).1 = (sensor.register other).1
      ∧ (sensor.register master).2.1 = (sensor.register other).2.1
      ∧ (sensor.register master).2.2.Matches (sensor.register other).2.2 := by
  have entered : Concur (master.register sensor.slave) (other.register sensor.slave) :=
    same.register True.intro
  unfold register
  split
  · obtain ⟨answer, next⟩ := entered
    generalize master.register sensor.slave = one, other.register sensor.slave = two
      at answer next ⊢
    obtain ⟨outcome, one⟩ := one
    obtain ⟨outcome, two⟩ := two
    obtain rfl := answer
    cases outcome with
    | error cause => exact ⟨rfl, rfl, next⟩
    | ok handle => exact ⟨rfl, rfl, next⟩
  · exact ⟨rfl, rfl, same⟩

theorem dataReady_matches (sensor : Sensor) (same : master.Matches other)
    : (sensor.dataReady master).Matches (sensor.dataReady other) := by
  unfold dataReady
  rw [same.memory]
  split
  · split
    · exact same
    · exact (same.tryTransfer _).next
  · exact same

theorem decode_matches (sensor : Sensor) (same : master.Matches other) (temperature : Float32)
    (now : Nat)
    : sensor.decode master temperature now = sensor.decode other temperature now := by
  unfold decode
  rw [same.memory, same.isBusy]

theorem startBringUp_matches (sensor : Sensor) (table : ParameterTable) (delay : Delay)
    (same : master.Matches other)
    : let one := sensor.startBringUp table delay master
      let two := sensor.startBringUp table delay other
      one.1 = two.1 ∧ one.2.1 = two.2.1 ∧ one.2.2.1 = two.2.2.1
        ∧ one.2.2.2.Matches two.2.2.2 := by
  unfold startBringUp
  split
  · exact ⟨rfl, rfl, rfl, same⟩
  · rename_i handle _
    split
    · obtain ⟨answer, spent, next⟩ :=
        BringUp.alike_identify sensor.config.probeTrials delay same
      let probing := { sensor with calibration := .load table, state := .probing }
      exact ⟨answer, congrArg probing.settle answer, spent, next⟩
    · exact ⟨rfl, rfl, rfl, same⟩

theorem resumeBringUp_matches (sensor : Sensor) (bringUp : BringUp) (delay : Delay)
    (same : master.Matches other)
    : let one := sensor.resumeBringUp bringUp delay master
      let two := sensor.resumeBringUp bringUp delay other
      one.1 = two.1 ∧ one.2.1 = two.2.1 ∧ one.2.2.1 = two.2.2.1
        ∧ one.2.2.2.Matches two.2.2.2 := by
  have resumed
      : Accord (bringUp.resume sensor.config delay master)
          (bringUp.resume sensor.config delay other) :=
    bringUp.alike_resume delay same
  exact ⟨resumed.answer, congrArg sensor.settle resumed.answer, resumed.delay, resumed.next⟩

end Sensor

end Magnetometer

-----------------------------------------------------------------------------------------
-- Benches that match
-----------------------------------------------------------------------------------------

/-- Clients that are registered by the action are heedless of how peripherals answer. -/
def Action.Heedless : Action → Prop
  | .register slave => slave.reaction.Heedless
  | _ => True

/-- A status is asked for by hand. -/
def Action.isQuestion : Action → Bool
  | .manual _ access => access.isQuestion
  | _ => false

namespace Bench

/-- Two benches differ in nothing but how their peripherals answer. -/
structure Matches (bench other : Bench) : Prop where
  master : bench.master.Matches other.master
  sensors : bench.sensors = other.sensors
  tasks : bench.tasks = other.tasks

/-- What happens on two benches is answered alike and lets them match. -/
structure Concur (outcome another : Answer × Bench) : Prop where
  answer : outcome.1 = another.1
  next : outcome.2.Matches another.2

variable {bench other : Bench}

theorem Matches.concur (same : bench.Matches other) (answer : Answer)
    : Concur (answer, bench) (answer, other) :=
  ⟨rfl, same⟩

theorem Matches.task? (same : bench.Matches other) (number : Nat)
    : bench.task? number = other.task? number :=
  congrArg (List.lookup number) same.tasks

theorem Matches.sensor? (same : bench.Matches other) (index : Nat)
    : bench.sensors[index]? = other.sensors[index]? :=
  congrArg (fun sensors : List Sensor => sensors[index]?) same.sensors

theorem Matches.setMaster {master another : Master} (same : bench.Matches other)
    (next : master.Matches another)
    : { bench with master }.Matches { other with master := another } :=
  { same with master := next }

theorem Matches.setSensor (same : bench.Matches other) (index : Nat) (sensor : Sensor)
    : (bench.setSensor index sensor).Matches (other.setSensor index sensor) :=
  { same with sensors := by simp only [Bench.setSensor, same.sensors] }

theorem Matches.discard (same : bench.Matches other) (number : Nat)
    : (bench.discard number).Matches (other.discard number) :=
  { same with tasks := by simp only [Bench.discard, same.tasks] }

theorem Matches.vacate (same : bench.Matches other) (number : Option Nat)
    : (bench.vacate number).Matches (other.vacate number) := by
  cases number with
  | none => exact same
  | some number => exact same.discard number

theorem Matches.keep (same : bench.Matches other) (task : Task) (number : Option Nat)
    : (bench.keep task number).Matches (other.keep task number) := by
  cases number with
  | none => exact same
  | some number => exact { same with tasks := by simp only [Bench.keep, same.tasks] }

theorem Matches.settleOperation
    {progress another : Poll Claiming (Except MasterError Reply) × Master}
    (same : bench.Matches other) (number : Option Nat) (concur : Master.Concur progress another)
    : Concur (bench.settleOperation number progress) (other.settleOperation number another) := by
  obtain ⟨outcome, master⟩ := progress
  obtain ⟨outcome, after⟩ := another
  obtain ⟨rfl, next⟩ := concur
  cases outcome with
  | ready outcome => exact (same.setMaster next).concur _
  | pending rest => exact ((same.setMaster next).keep _ number).concur _

theorem Matches.settleStandby
    {progress another : Poll Standby (Except MasterError Unit) × Delay × Master}
    (same : bench.Matches other) (number : Option Nat) (accord : Master.Accord progress another)
    : Concur (bench.settleStandby number progress) (other.settleStandby number another) := by
  obtain ⟨outcome, delay, master⟩ := progress
  obtain ⟨outcome, delay, after⟩ := another
  obtain ⟨rfl, rfl, next⟩ := accord
  cases outcome with
  | ready outcome => exact (same.setMaster next).concur _
  | pending rest => exact ((same.setMaster next).keep _ number).concur _

theorem Matches.settleBringUp
    {progress another : Poll BringUp (Except SensorError Unit) × Sensor × Delay × Master}
    (same : bench.Matches other) (index : Nat) (number : Option Nat)
    (alike
      : progress.1 = another.1 ∧ progress.2.1 = another.2.1 ∧ progress.2.2.1 = another.2.2.1
        ∧ progress.2.2.2.Matches another.2.2.2)
    : Concur (bench.settleBringUp index number progress)
        (other.settleBringUp index number another) := by
  obtain ⟨outcome, sensor, delay, master⟩ := progress
  obtain ⟨outcome, sensor, delay, after⟩ := another
  obtain ⟨rfl, rfl, rfl, next⟩ := alike
  have settled := (same.setMaster next).setSensor index sensor
  cases outcome with
  | ready outcome => exact settled.concur _
  | pending rest => exact (settled.keep _ number).concur _

theorem Matches.resume (same : bench.Matches other) (number : Nat) (task : Task)
    : Concur (bench.resume number task) (other.resume number task) := by
  cases task with
  | operation rest => exact same.settleOperation (some number) (same.master.resume rest)
  | standby rest delay =>
      exact same.settleStandby (some number) (same.master.resumeStandby rest delay)
  | bringUp index rest delay =>
      simp only [Bench.resume, same.sensor?]
      split
      · exact same.concur _
      · exact same.settleBringUp index (some number)
          (Sensor.resumeBringUp_matches _ rest delay same.master)

/-- What is done to the peripheral of a bus is done on both benches or on neither. It is answered
alike under a condition if the peripherals answer alike under this condition.
-/
theorem Matches.withPeripheral {plain : Prop} (same : bench.Matches other) (id : BusId)
    {act another : Peripheral → Result × Peripheral}
    (alike
      : ∀ {here there : Peripheral},
          here.Matches there
          → (plain → (act here).1 = (another there).1) ∧ (act here).2.Matches (another there).2)
    : (plain → (bench.withPeripheral id act).1 = (other.withPeripheral id another).1)
      ∧ (bench.withPeripheral id act).2.Matches (other.withPeripheral id another).2 := by
  unfold Bench.withPeripheral Master.peripheral?
  rcases (same.master.buses id).cases with ⟨here, there⟩ | ⟨_, _, here, there, fits⟩
  · rw [here, there]
    exact ⟨fun _ => rfl, same⟩
  · obtain ⟨answer, next⟩ := alike fits
    rw [here, there]
    exact ⟨fun holds => congrArg Answer.ofResult (answer holds),
      same.setMaster (same.master.setPeripheral id next)⟩

theorem Matches.deliver (same : bench.Matches other) (id : BusId) (data : List UInt8)
    : Concur (bench.deliver id data) (other.deliver id data) := by
  unfold Bench.deliver Master.peripheral? Peripheral.deliver
  rw [same.master.memory]
  rcases (same.master.buses id).cases with ⟨here, there⟩ | ⟨_, _, here, there, fits⟩
  · simp only [here, there]
    exact same.concur _
  · simp only [here, there]
    rcases fits.takeArmed .rx with ⟨one, two⟩ | ⟨window, one, two, disarmed⟩
    · simp only [one, two, Option.map_none]
      exact same.concur _
    · simp only [one, two, Option.map_some]
      have next := same.master.setPeripheral id (disarmed.setCompleted .rx true)
      exact (same.setMaster (next.setMemory _)).concur _

theorem Matches.drain {plain : Prop} (same : bench.Matches other) (id : BusId)
    : (plain → (bench.drain id).1 = (other.drain id).1)
      ∧ (bench.drain id).2.Matches (other.drain id).2 := by
  unfold Bench.drain
  rw [same.master.memory]
  refine same.withPeripheral id (fun fits => ?_)
  unfold Peripheral.drain
  rcases fits.takeArmed .tx with ⟨one, two⟩ | ⟨window, one, two, disarmed⟩
  · rw [one, two]
    exact ⟨fun _ => rfl, fits⟩
  · rw [one, two]
    exact ⟨fun _ => rfl, disarmed.setCompleted .tx true⟩

theorem Matches.stepSensor (same : bench.Matches other) (index : Nat) (sensor : Sensor)
    (action : SensorAction)
    : Concur (bench.stepSensor index sensor action) (other.stepSensor index sensor action) := by
  cases action with
  | register =>
      obtain ⟨answer, next, master⟩ := sensor.register_matches same.master
      simp only [Bench.stepSensor, answer, next]
      exact ((same.setMaster master).setSensor index _).concur _
  | bringUp table schedule number =>
      exact (same.vacate number).settleBringUp index number
        (sensor.startBringUp_matches table (.new schedule) same.master)
  | enable => exact (same.setSensor index _).concur _
  | disable => exact (same.setSensor index _).concur _
  | dataReady => exact (same.setMaster (sensor.dataReady_matches same.master)).concur _
  | decode temperature now =>
      simp only [Bench.stepSensor, sensor.decode_matches same.master]
      exact (same.setSensor index _).concur _

/-- Every action happens alike on benches that match, by cases on the action. Only questions about
the status that are asked by hand may be answered differently.
-/
theorem Matches.step (same : bench.Matches other) {action : Action} (heedless : action.Heedless)
    : (action.isQuestion = false → (bench.step action).1 = (other.step action).1)
      ∧ (bench.step action).2.Matches (other.step action).2 := by
  have told {outcome another : Answer × Bench} (concur : Concur outcome another)
      : (action.isQuestion = false → outcome.1 = another.1) ∧ outcome.2.Matches another.2 :=
    ⟨fun _ => concur.answer, concur.next⟩
  cases action with
  | configureAll => exact told ((same.setMaster same.master.configureAll).concur _)
  | register slave =>
      obtain ⟨answer, next⟩ := same.master.register heedless
      let told := fun outcome => Answer.ofResult (.ofMaster .registered outcome)
      exact ⟨fun _ => congrArg told answer, same.setMaster next⟩
  | tryTransfer request =>
      obtain ⟨answer, next⟩ := same.master.tryTransfer request
      let told := fun outcome => Answer.ofResult (.ofMaster (fun _ : Unit => .done) outcome)
      exact ⟨fun _ => congrArg told answer, same.setMaster next⟩
  | start operation number =>
      exact told ((same.vacate number).settleOperation number (same.master.start operation))
  | standby handle schedule number =>
      exact told ((same.vacate number).settleStandby number
        (same.master.startStandby handle (.new schedule)))
  | poll number =>
      simp only [Bench.step, same.task?]
      split
      · exact told (same.concur _)
      · exact told ((same.discard number).resume number _)
  | drop number =>
      let told := fun task : Option Task => Answer.ofResult (.truth task.isSome)
      exact ⟨fun _ => congrArg told (same.task? number), same.discard number⟩
  | complete bus stream =>
      obtain ⟨answer, next⟩ := same.master.complete bus stream
      exact ⟨fun _ => congrArg (Answer.mk .done none) answer, same.setMaster next⟩
  | advanceRing index =>
      simp only [Bench.step, same.sensor?]
      split
      · exact told (same.concur _)
      · rw [same.master.memory]
        exact told ((same.setMaster (same.master.setMemory _)).concur _)
  | arrange bus arrangement =>
      exact same.withPeripheral bus fun fits => ⟨fun _ => rfl, fits.arrange arrangement⟩
  | forget bus => exact same.withPeripheral bus fun fits => ⟨fun _ => rfl, fits.forget⟩
  | deliver bus data => exact told (same.deliver bus data)
  | drain bus => exact same.drain bus
  | raise bus stream =>
      exact same.withPeripheral bus fun fits => ⟨fun _ => rfl, fits.setCompleted stream true⟩
  | manual bus access =>
      refine same.withPeripheral bus (fun fits => ?_)
      obtain ⟨answer, next⟩ := fits.manual access
      exact ⟨fun plain => congrArg Result.ofManual (answer plain), next⟩
  | sensor index action =>
      simp only [Bench.step, same.sensor?]
      split
      · exact told (same.concur _)
      · exact told (same.stepSensor index _ action)

/-- Benches that match still do after the same actions, by induction over these. -/
theorem Matches.run {actions : List Action} (same : bench.Matches other)
    (heedless : ∀ action ∈ actions, action.Heedless)
    : (bench.run actions).2.Matches (other.run actions).2 := by
  induction actions generalizing bench other with
  | nil => exact same
  | cons action rest ih =>
      have next := (same.step (heedless action List.mem_cons_self)).2
      exact ih next fun later member => heedless later (List.mem_cons_of_mem action member)

/-- Benches that were assembled alike match, at whatever paces their peripherals answer. -/
theorem matches_assemble {paces others : PerBus (Option Pace)}
    (present : ∀ id, (paces.get id).isSome = (others.get id).isSome) (capacity : Fin 255)
    (buffers : List (List UInt8)) (sensors : List (Config × Nat))
    : (assemble capacity paces buffers sensors).Matches
        (assemble capacity others buffers sensors) := by
  refine ⟨⟨rfl, rfl, fun id => ?_, by simp [assemble, Bench.new, Master.new, SlaveTable.empty]⟩,
    rfl, rfl⟩
  simp only [assemble, Bench.new, Master.new, Master.bus, PerBus.get_ofFn, Bus.new]
  refine ⟨rfl, rfl, rfl, ?_⟩
  have present := present id
  cases here : paces.get id <;> cases there : others.get id <;>
    simp only [here, there, Option.isSome_some, Option.isSome_none, reduceCtorEq] at present ⊢
  · exact .none
  · exact .some (Peripheral.matches_new _ _)

-----------------------------------------------------------------------------------------
-- Every run
-----------------------------------------------------------------------------------------

/-- In every run, peripherals that refuse each wait any number of times make no difference but in
time, as long as no client looks at how they answer. Every action but a question about the status
that is asked by hand is answered as it is when every wait is granted at once, the same commands are
given on every bus, and what is left is the same but for the questions. Every wait ends, whatever
the state of the peripheral and its pace, and a probe takes a slave for acknowledging its address
exactly if it does.
-/
theorem slowness_changes_timing_only {capacity : Fin 255} {paces : PerBus (Option Pace)}
    {buffers : List (List UInt8)} {sensors : List (Config × Nat)} {actions : List Action}
    (heedless : ∀ action ∈ actions, action.Heedless)
    : let slow := assemble capacity paces buffers sensors
      let prompt :=
        assemble capacity (.ofFn fun id => (paces.get id).map fun _ => .instant) buffers sensors
      (∀ earlier action later, actions = earlier ++ action :: later
        → action.isQuestion = false
        → ((slow.run earlier).2.step action).1 = ((prompt.run earlier).2.step action).1)
      ∧ (∀ id,
          ((slow.run actions).2.master.peripheral? id).map Peripheral.commands
          = ((prompt.run actions).2.master.peripheral? id).map Peripheral.commands)
      ∧ (slow.run actions).2.Matches (prompt.run actions).2
      ∧ ∀ peripheral : Peripheral,
          (∀ event, Peripheral.Waits (·.askEvent event) peripheral (peripheral.awaitEvent event))
          ∧ (∀ flag, flag = .byteTransferFinished ∨ flag = .rxNotEmpty
            → Peripheral.Waits (·.askFlag flag) peripheral (peripheral.awaitFlag flag))
          ∧ Peripheral.Waits (fun current => current.askStopHeld.map (!·) id) peripheral
              peripheral.awaitStop
          ∧ (∀ address direction,
              let sent := peripheral.sendAddress address direction
              Peripheral.Waits Peripheral.askAnswered sent sent.awaitAnswer)
          ∧ ∀ address,
              (peripheral.probe address).1 = !peripheral.script.refuses .transmitter := by
  intro slow prompt
  have start : slow.Matches prompt :=
    matches_assemble (fun id => by simp) capacity buffers sensors
  refine ⟨?_, ?_, start.run heedless, fun peripheral => ⟨?_, ?_, ?_, ?_, ?_⟩⟩
  · rintro earlier action later rfl plain
    have before := start.run fun done member =>
      heedless done (List.mem_append_left (action :: later) member)
    exact (before.step (heedless action (by simp))).1 plain
  · intro id
    unfold Master.peripheral?
    rcases ((start.run heedless).master.buses id).cases with
      ⟨here, there⟩ | ⟨_, _, here, there, fits⟩
    · rw [here, there]
    · rw [here, there]
      exact congrArg some fits.commands
  · exact peripheral.waits_awaitEvent
  · exact fun flag plain => peripheral.waits_awaitFlag plain
  · exact peripheral.waits_awaitStop
  · exact peripheral.waits_awaitAnswer
  · intro address
    rw [Peripheral.probe_eq]
    cases peripheral.script.refuses .transmitter <;> rfl

/-- A slave refuses its address once, sends two bytes, and its client sends them back again and
again. The slow peripheral is asked more often but is given the same commands.
-/
theorem slowness_shows_in_questions_only
    : let paces : PerBus (Option Pace) := ⟨some (.ofLag fun wait => wait % 3 + 1), none, none⟩
      let register : RegisterAddress := ⟨.bits16, 0x100⟩
      let back : Request := ⟨.write, ⟨0⟩, register, ⟨.buffer 0, 0, 2⟩⟩
      let actions : List Action :=
        [.register ⟨.i2c1, 0x50, .tell "page" (some back)⟩, .arrange .i2c1 (.refuseNext 1),
          .standby ⟨0⟩ false none, .tryTransfer { back with kind := .read },
          .deliver .i2c1 [7, 8], .complete .i2c1 .rx, .drain .i2c1, .complete .i2c1 .tx]
      let slow := ((assemble 2 paces [[0, 0]] []).run actions).2
      let prompt := ((assemble 2 ⟨some .instant, none, none⟩ [[0, 0]] []).run actions).2
      (∀ action ∈ actions, action.Heedless)
      ∧ slow.Matches prompt
      ∧ (slow.master.peripheral? .i2c1).map (·.commands.length) = some 36
      ∧ (slow.master.peripheral? .i2c1).map (·.trace.length) = some 99
      ∧ (prompt.master.peripheral? .i2c1).map (·.trace.length) = some 60 := by
  intro paces register back actions slow prompt
  have heedless : ∀ action ∈ actions, action.Heedless := by
    simp [actions, Action.Heedless, Reaction.tell, Reaction.Heedless]
  refine ⟨heedless, ?_, ?_, ?_, ?_⟩
  · exact (slowness_changes_timing_only heedless).2.2.1
  · decide +kernel
  · decide +kernel
  · decide +kernel

end Bench

end TwoWire
