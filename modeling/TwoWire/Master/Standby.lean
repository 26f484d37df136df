import TwoWire.Master
import TwoWire.Retry

/-! Waiting for a slave that ignores its address for a while, as memories do after a write.

The slave is addressed again and again until it acknowledges. The bus stays claimed from the
first address to the answer, also while the probe pauses.
-/

namespace TwoWire

/-- A standby probe that waits. -/
inductive Standby where
  | claiming (handle : Handle) (slave : Slave)
  /-- It has its bus and pauses between two trials. -/
  | pausing (slave : Slave) (paused : Retry.Paused)

namespace Standby

/-- How often a slave is addressed before the probe gives up. -/
def trials : Nat := 10

/-- The pause between two trials in milliseconds. -/
def interval : Nat := 1

end Standby

namespace Master

/-- Record on the bus of a slave how far its probe got. When the trials are used up the frame
still needs its stop condition, and with the answer the bus becomes idle.
-/
def settleStandby (master : Master) (slave : Slave)
    : Poll Retry.Paused Bool × Peripheral × Delay
      → Poll Standby (Except MasterError Unit) × Delay × Master
  | (.pending paused, peripheral, delay) =>
    (.pending (.pausing slave paused), delay, master.setPeripheral slave.bus peripheral)
  | (.ready acknowledged, peripheral, delay) =>
    let ended := if acknowledged then peripheral else peripheral.stop
    let bus := { master.bus slave.bus with peripheral := some ended }
    (.ready (if acknowledged then .ok () else .error .standbyTimeout), delay,
      master.setBus slave.bus bus.release.2)

/-- Claim the bus of a slave for its probe and make the first trials; on a busy bus the probe
waits.
-/
def claimStandby (master : Master) (handle : Handle) (slave : Slave) (delay : Delay)
    : Poll Standby (Except MasterError Unit) × Delay × Master :=
  match (master.bus slave.bus).claim (.probe handle), master.peripheral? slave.bus with
  | some bus, some peripheral =>
    (master.setBus slave.bus bus).settleStandby slave
      (Retry.run Standby.interval (·.probe slave.address) Standby.trials peripheral delay)
  | _, _ => (.pending (.claiming handle slave), delay, master)

def startStandby (master : Master) (handle : Handle) (delay : Delay)
    : Poll Standby (Except MasterError Unit) × Delay × Master :=
  match master.resolve handle with
  | .error cause => (.ready (.error cause), delay, master)
  | .ok slave => master.claimStandby handle slave delay

def resumeStandby (master : Master) (standby : Standby) (delay : Delay)
    : Poll Standby (Except MasterError Unit) × Delay × Master :=
  match standby with
  | .claiming handle slave => master.claimStandby handle slave delay
  | .pausing slave paused =>
    match master.peripheral? slave.bus with
    | none => (.pending standby, delay, master)
    | some peripheral =>
      master.settleStandby slave
        (Retry.resume Standby.interval (·.probe slave.address) paused peripheral delay)

end Master

end TwoWire
