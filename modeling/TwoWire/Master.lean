import TwoWire.Bus
import TwoWire.SlaveTable

/-! The bus master: a table of slaves, the buses they live on and the memory they share. -/

namespace TwoWire

/-- A master with everything that its transfers can reach. -/
structure Master where
  slaves : SlaveTable
  buses : PerBus Bus
  memory : Memory

namespace Master

/-- A master without slaves over the peripherals that are present. -/
def new (capacity : Fin 255) (peripherals : PerBus (Option Peripheral)) (memory : Memory)
    : Master where
  slaves := .empty capacity
  buses := .ofFn fun bus => .new (peripherals.get bus)
  memory := memory

def bus (master : Master) (id : BusId) : Bus :=
  master.buses.get id

def setBus (master : Master) (id : BusId) (bus : Bus) : Master :=
  { master with buses := master.buses.set id bus }

def peripheral? (master : Master) (id : BusId) : Option Peripheral :=
  (master.bus id).peripheral

def setPeripheral (master : Master) (id : BusId) (peripheral : Peripheral) : Master :=
  master.setBus id { master.bus id with peripheral := some peripheral }

/-- Bring up every bus that has a peripheral and was not brought up before. -/
def configureAll (master : Master) : Master :=
  { master with buses := .ofFn fun id => (master.bus id).configureOnce }

/-- Register a slave, bringing up its bus on first use. The address is checked before the bus,
and the bus before the table; a bus is brought up even if the table then refuses the slave.
-/
def register (master : Master) (slave : Slave) : Except MasterError Handle × Master :=
  if 0x7F < slave.address then
    (.error (.invalidAddress slave.address), master)
  else if (master.peripheral? slave.bus).isNone then
    (.error .unknownBus, master)
  else
    let ready := master.setBus slave.bus (master.bus slave.bus).configureOnce
    match master.slaves.insert slave with
    | .error cause => (.error cause, ready)
    | .ok (handle, slaves) => (.ok handle, { ready with slaves })

/-- The slave of a handle, whose bus must have a peripheral. -/
def resolve (master : Master) (handle : Handle) : Except MasterError Slave :=
  match master.slaves.get? handle with
  | none => .error .unknownSlave
  | some slave =>
    if (master.peripheral? slave.bus).isNone then .error .unknownBus else .ok slave

end Master

end TwoWire
