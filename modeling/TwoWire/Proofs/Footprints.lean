import TwoWire.Bench
import TwoWire.Proofs.SensorConduct

/-! What an action leaves alone, whatever is done: no rule for clients is assumed, and flags may be
raised and peripherals accessed by hand.

The table of slaves is changed by registrations only, and no bus ever gains or loses its
peripheral. A task knows its slave from its first poll on, and since the table only grows it goes
on knowing it.
-/

namespace TwoWire

open Magnetometer

-----------------------------------------------------------------------------------------
-- Masters that keep their slaves and their peripherals
-----------------------------------------------------------------------------------------

namespace Master

/-- The slaves are the same, and so are the buses that have a peripheral. -/
structure Steady (master next : Master) : Prop where
  slaves : next.slaves = master.slaves
  present : ∀ id, (next.peripheral? id).isSome = (master.peripheral? id).isSome

variable {master middle next : Master} {origin : Origin} {allowed : Operation → Prop}
  {handles : List Handle}

theorem Steady.refl (master : Master)
    : master.Steady master :=
  ⟨rfl, fun _ => rfl⟩

theorem Steady.trans (head : master.Steady middle) (tail : middle.Steady next)
    : master.Steady next where
  slaves := tail.slaves.trans head.slaves
  present id := (tail.present id).trans (head.present id)

/-- A bus can be replaced by one that has a peripheral if the old one had. -/
theorem steady_setBus {id : BusId} {bus : Bus}
    (same : bus.peripheral.isSome = (master.peripheral? id).isSome)
    : master.Steady (master.setBus id bus) where
  slaves := rfl
  present other := by
    by_cases here : other = id
    · subst here
      simpa [peripheral?, Master.bus, setBus] using same
    · simp [peripheral?, Master.bus, setBus, here]

theorem steady_setPeripheral {id : BusId} {peripheral after : Peripheral}
    (here : master.peripheral? id = some peripheral)
    : master.Steady (master.setPeripheral id after) :=
  steady_setBus (by simp [here])

theorem peripheral_configureOnce (bus : Bus)
    : bus.configureOnce.peripheral.isSome = bus.peripheral.isSome := by
  unfold Bus.configureOnce
  split
  · rfl
  · split
    · rfl
    · rename_i here _
      simp [here]

theorem steady_configureAll (master : Master)
    : master.Steady master.configureAll where
  slaves := rfl
  present id := by
    simp [configureAll, peripheral?, Master.bus, peripheral_configureOnce]

theorem steady_attempt {slave : Slave} {operation : Operation} {reply : Reply}
    (accepted : master.attempt slave operation = some (reply, next))
    : master.Steady next := by
  obtain ⟨peripheral, after, memory, -, here, -, rfl⟩ := eq_of_attempt accepted
  have replaced
      : master.Steady (master.setBus slave.bus
          { master.bus slave.bus with
            active :=
              if (operation.transaction master.memory).isStream then
                .store (some operation.handle)
              else .empty
            served := (master.bus slave.bus).served ++ [operation.transaction master.memory]
            peripheral := some after }) :=
    steady_setBus (by simp [here])
  exact ⟨replaced.slaves, replaced.present⟩

/-- Serving operations leaves slaves and peripherals alone, by induction over them. -/
theorem Serves.steady (serves : Serves origin allowed master handles next)
    : master.Steady next := by
  induction serves with
  | done => exact .refl _
  | next _ _ accepted _ ih => exact (steady_attempt accepted).trans ih

theorem steady_resume (master : Master) (claiming : Claiming)
    : master.Steady (master.resume claiming).2 := by
  unfold resume
  split
  · exact .refl master
  · rename_i accepted
    exact steady_attempt accepted

theorem steady_tryTransfer (master : Master) (request : Request)
    : master.Steady (master.tryTransfer request).2 := by
  have serves
      : master.Serves .client (fun _ => True) (request.accepted (master.tryTransfer request).1)
          (master.tryTransfer request).2 :=
    master.serves_tryTransfer True.intro
  exact serves.steady

/-- Transfers that follow each other leave slaves and peripherals alone, by induction over them. -/
theorem steady_tryTransfers (master : Master) (requests : List Request)
    : master.Steady (master.tryTransfers requests).2 := by
  induction requests generalizing master with
  | nil => exact .refl master
  | cons request rest ih => exact (master.steady_tryTransfer request).trans (ih _)

theorem steady_notify (master : Master) (handle : Handle) (slave : Slave)
    : master.Steady (master.notify handle slave).2 := by
  unfold notify
  cases slave.reaction with
  | none | advanceRing => exact ⟨rfl, fun _ => rfl⟩
  | call tag requests => exact master.steady_tryTransfers _

/-- A completion closes the frame on a peripheral that stays, and tells a slave of the table. -/
theorem steady_complete (master : Master) (bus : BusId) (stream : Stream)
    : master.Steady (master.complete bus stream).2 := by
  unfold complete
  cases here : master.peripheral? bus with
  | none => exact .refl master
  | some peripheral =>
      dsimp only
      split
      · have freed
            : master.Steady (master.setBus bus
                { master.bus bus with
                  peripheral := some ((peripheral.takeCompleted stream).2.closeFrame stream)
                  }.release.2) :=
          steady_setBus (by simp [Bus.release, here])
        split
        · exact freed
        · split
          · exact freed
          · exact freed.trans (steady_notify _ _ _)
      · exact steady_setPeripheral here

-----------------------------------------------------------------------------------------
-- Standby probes
-----------------------------------------------------------------------------------------

theorem steady_settleStandby {slave : Slave} {peripheral : Peripheral}
    (here : master.peripheral? slave.bus = some peripheral)
    (progress : Poll Retry.Paused Bool × Peripheral × Delay)
    : master.Steady (master.settleStandby slave progress).2.2 := by
  obtain ⟨outcome, after, delay⟩ := progress
  cases outcome with
  | pending paused => exact steady_setPeripheral here
  | ready acknowledged => exact steady_setBus (by simp [Bus.release, here])

theorem steady_claimStandby (master : Master) (handle : Handle) (slave : Slave) (delay : Delay)
    : master.Steady (master.claimStandby handle slave delay).2.2 := by
  unfold claimStandby
  split
  · rename_i bus peripheral claimed here
    obtain ⟨-, same⟩ := Bus.eq_of_claim claimed
    have kept : bus.peripheral = some peripheral := by
      rw [same]
      exact here
    have owned : master.Steady (master.setBus slave.bus bus) :=
      steady_setBus (by rw [kept, here])
    have there : (master.setBus slave.bus bus).peripheral? slave.bus = some peripheral := by
      simpa [peripheral?, Master.bus, setBus] using kept
    exact owned.trans (steady_settleStandby there _)
  · exact .refl master

theorem steady_startStandby (master : Master) (handle : Handle) (delay : Delay)
    : master.Steady (master.startStandby handle delay).2.2 := by
  unfold startStandby
  split
  · exact .refl master
  · exact master.steady_claimStandby handle _ delay

theorem steady_resumeStandby (master : Master) (standby : Standby) (delay : Delay)
    : master.Steady (master.resumeStandby standby delay).2.2 := by
  cases standby with
  | claiming handle slave => exact master.steady_claimStandby handle slave delay
  | pausing slave paused =>
      unfold resumeStandby
      dsimp only
      split
      · exact .refl master
      · rename_i here
        exact steady_settleStandby here _

end Master

/-- An edge serves at most one capture, as a transfer that does not wait. -/
theorem Magnetometer.Sensor.steady_dataReady (sensor : Sensor) (master : Master)
    : master.Steady (sensor.dataReady master) := by
  unfold dataReady
  split
  · split
    · exact .refl master
    · exact master.steady_tryTransfer _
  · exact .refl master

-----------------------------------------------------------------------------------------
-- The parts of a bench
-----------------------------------------------------------------------------------------

namespace Bench

variable {bench : Bench} {number : Option Nat}

@[simp] theorem master_keep (bench : Bench) (task : Task) (number : Option Nat)
    : (bench.keep task number).master = bench.master := by
  cases number <;> rfl

@[simp] theorem sensors_keep (bench : Bench) (task : Task) (number : Option Nat)
    : (bench.keep task number).sensors = bench.sensors := by
  cases number <;> rfl

/-- A task of a bench that kept one was there before or is the one that was kept. -/
theorem mem_tasks_keep {task : Task} {entry : Nat × Task}
    (member : entry ∈ (bench.keep task number).tasks)
    : entry ∈ bench.tasks ∨ entry.2 = task := by
  cases number with
  | none => exact .inl member
  | some number =>
      rcases List.mem_cons.mp member with rfl | old
      · exact .inr rfl
      · exact .inl old

/-- A task that is found waits. -/
theorem mem_tasks_of_task? {number : Nat} {task : Task} (polled : bench.task? number = some task)
    : (number, task) ∈ bench.tasks := by
  obtain ⟨before, after, split, -⟩ := List.lookup_eq_some_iff.mp polled
  simp [split]

theorem mem_tasks_discard {number : Nat} {entry : Nat × Task}
    (member : entry ∈ (bench.discard number).tasks)
    : entry ∈ bench.tasks :=
  (List.mem_filter.mp member).1

theorem mem_tasks_vacate {entry : Nat × Task} (member : entry ∈ (bench.vacate number).tasks)
    : entry ∈ bench.tasks := by
  cases number with
  | none => exact member
  | some number => exact mem_tasks_discard member

@[simp] theorem master_settleOperation (bench : Bench) (number : Option Nat)
    (progress : Poll Claiming (Except MasterError Reply) × Master)
    : (bench.settleOperation number progress).2.master = progress.2 := by
  obtain ⟨outcome, master⟩ := progress
  cases outcome <;> simp [settleOperation]

@[simp] theorem sensors_settleOperation (bench : Bench) (number : Option Nat)
    (progress : Poll Claiming (Except MasterError Reply) × Master)
    : (bench.settleOperation number progress).2.sensors = bench.sensors := by
  obtain ⟨outcome, master⟩ := progress
  cases outcome <;> simp [settleOperation]

@[simp] theorem master_settleStandby (bench : Bench) (number : Option Nat)
    (progress : Poll Standby (Except MasterError Unit) × Delay × Master)
    : (bench.settleStandby number progress).2.master = progress.2.2 := by
  obtain ⟨outcome, delay, master⟩ := progress
  cases outcome <;> simp [settleStandby]

@[simp] theorem sensors_settleStandby (bench : Bench) (number : Option Nat)
    (progress : Poll Standby (Except MasterError Unit) × Delay × Master)
    : (bench.settleStandby number progress).2.sensors = bench.sensors := by
  obtain ⟨outcome, delay, master⟩ := progress
  cases outcome <;> simp [settleStandby]

@[simp] theorem master_settleBringUp (bench : Bench) (index : Nat) (number : Option Nat)
    (progress : Poll BringUp (Except SensorError Unit) × Sensor × Delay × Master)
    : (bench.settleBringUp index number progress).2.master = progress.2.2.2 := by
  obtain ⟨outcome, sensor, delay, master⟩ := progress
  cases outcome <;> simp [settleBringUp]

@[simp] theorem sensors_settleBringUp (bench : Bench) (index : Nat) (number : Option Nat)
    (progress : Poll BringUp (Except SensorError Unit) × Sensor × Delay × Master)
    : (bench.settleBringUp index number progress).2.sensors
      = bench.sensors.set index progress.2.1 := by
  obtain ⟨outcome, sensor, delay, master⟩ := progress
  cases outcome <;> simp [settleBringUp]

@[simp] theorem sensors_withPeripheral (bench : Bench) (id : BusId)
    (act : Peripheral → Result × Peripheral)
    : (bench.withPeripheral id act).2.sensors = bench.sensors := by
  unfold withPeripheral
  split <;> rfl

@[simp] theorem tasks_withPeripheral (bench : Bench) (bus : BusId)
    (act : Peripheral → Result × Peripheral)
    : (bench.withPeripheral bus act).2.tasks = bench.tasks := by
  unfold withPeripheral
  split <;> rfl

theorem steady_withPeripheral (bench : Bench) (id : BusId)
    (act : Peripheral → Result × Peripheral)
    : bench.master.Steady (bench.withPeripheral id act).2.master := by
  unfold withPeripheral
  split
  · exact .refl _
  · rename_i here
    exact Master.steady_setPeripheral here

@[simp] theorem sensors_deliver (bench : Bench) (id : BusId) (data : List UInt8)
    : (bench.deliver id data).2.sensors = bench.sensors := by
  unfold deliver
  split
  · rfl
  · split <;> rfl

@[simp] theorem tasks_deliver (bench : Bench) (bus : BusId) (data : List UInt8)
    : (bench.deliver bus data).2.tasks = bench.tasks := by
  unfold deliver
  split
  · rfl
  · split <;> rfl

theorem steady_deliver (bench : Bench) (id : BusId) (data : List UInt8)
    : bench.master.Steady (bench.deliver id data).2.master := by
  unfold deliver
  split
  · exact .refl _
  · rename_i here
    split
    · exact .refl _
    · rename_i next memory _
      have replaced : bench.master.Steady (bench.master.setPeripheral id next) :=
        Master.steady_setPeripheral here
      exact ⟨replaced.slaves, replaced.present⟩

@[simp] theorem vacate_master (bench : Bench) (number : Option Nat)
    : (bench.vacate number).master = bench.master := by
  cases number <;> rfl

@[simp] theorem vacate_sensors (bench : Bench) (number : Option Nat)
    : (bench.vacate number).sensors = bench.sensors := by
  cases number <;> rfl

end Bench

end TwoWire
