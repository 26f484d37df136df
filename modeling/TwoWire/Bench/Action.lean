import TwoWire.Delay
import TwoWire.Magnetometer.Sensor
import TwoWire.Peripheral.Manual

/-! What can happen on a bench: requests of clients, polls of waiting tasks, interrupts, and what
the simulated hardware does.
-/

namespace TwoWire

open Magnetometer

inductive SensorAction where
  | register
  /-- Bring it up, as a task if a number is given. -/
  | bringUp (table : ParameterTable) (schedule : Schedule) (task : Option Nat)
  | enable
  | disable
  | dataReady
  | decode (temperature : Float32) (now : Nat)

/-- What can happen on a bench. -/
inductive Action where
  | configureAll
  | register (slave : Slave)
  | tryTransfer (request : Request)
  /-- Begin an operation, as a task if a number is given. -/
  | start (operation : Operation) (task : Option Nat)
  /-- Begin a standby probe, as a task if a number is given. -/
  | standby (handle : Handle) (schedule : Schedule) (task : Option Nat)
  | poll (task : Nat)
  | drop (task : Nat)
  | complete (bus : BusId) (stream : Stream)
  /-- The completion of a capture is signalled to the ring of a sensor by hand. -/
  | advanceRing (sensor : Nat)
  | arrange (bus : BusId) (arrangement : Arrangement)
  | forget (bus : BusId)
  | deliver (bus : BusId) (data : List UInt8)
  | drain (bus : BusId)
  /-- A transfer-complete flag is raised without a transfer. -/
  | raise (bus : BusId) (stream : Stream)
  | manual (bus : BusId) (access : ManualAccess)
  | sensor (index : Nat) (action : SensorAction)

end TwoWire
