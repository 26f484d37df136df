import TwoWire.Master.Transfer

/-! Completed streams: the transaction is closed, its bus made idle and its slave told.

The bus is idle before the slave is told, so what the slave asks for then is never refused
because of the transaction that has just ended.
-/

namespace TwoWire

/-- How a slave was told about a completion. -/
structure Notice where
  handle : Handle
  bus : BusId
  busy : Bool
  tag : Option String
  /-- The transfers that the client asked for, with what it was answered, in their order. -/
  asked : List (Request × Except MasterError Unit)

/-- What the client was answered to the first transfer that it asked for, if it asked for one. -/
def Notice.chained (notice : Notice) : Option (Except MasterError Unit) :=
  notice.asked.head?.map Prod.snd

namespace Master

/-- Tell a slave that its transfer has completed. -/
def notify (master : Master) (handle : Handle) (slave : Slave) : Notice × Master :=
  let busy := (master.bus slave.bus).isBusy
  match slave.reaction with
  | .none => (⟨handle, slave.bus, busy, none, []⟩, master)
  | .advanceRing index =>
    (⟨handle, slave.bus, busy, none, []⟩,
      { master with memory := master.memory.advanceRing index })
  | .call tag requests =>
    let (asked, next) := master.tryTransfers (requests master.buses master.memory)
    (⟨handle, slave.bus, busy, some tag, asked⟩, next)

/-- Handle the completion interrupt of a stream. It does nothing without a peripheral or without
the transfer-complete flag. With the flag it ends the frame and makes the bus idle, and the slave
that owned the bus is told.
-/
def complete (master : Master) (bus : BusId) (stream : Stream) : Option Notice × Master :=
  match master.peripheral? bus with
  | none => (none, master)
  | some peripheral =>
    let (seen, taken) := peripheral.takeCompleted stream
    if seen then
      let closed := { master.bus bus with peripheral := some (taken.closeFrame stream) }
      let (owner, idle) := closed.release
      let freed := master.setBus bus idle
      match owner with
      | none => (none, freed)
      | some handle =>
        match freed.slaves.get? handle with
        | none => (none, freed)
        | some slave => (freed.notify handle slave).map some id
    else
      (none, master.setPeripheral bus taken)

end Master

end TwoWire
