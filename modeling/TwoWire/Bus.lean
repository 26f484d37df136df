import TwoWire.Peripheral.Frame

/-! What a master keeps for one bus: who owns it, and the peripheral that drives it. -/

namespace TwoWire

/-- One bus of a master. -/
structure Bus where
  /-- The slave that owns the bus; the bus is busy exactly when there is one. -/
  active : HandleCell
  /-- The transactions that were given the bus, in their order. -/
  served : List Transaction
  configured : Bool
  peripheral : Option Peripheral

namespace Bus

def new (peripheral : Option Peripheral) : Bus where
  active := .empty
  served := []
  configured := false
  peripheral := peripheral

def owner (bus : Bus) : Option Handle :=
  bus.active.load

def isBusy (bus : Bus) : Bool :=
  bus.active.isSome

theorem isBusy_eq (bus : Bus)
    : bus.isBusy = bus.owner.isSome :=
  bus.active.isSome_eq

/-- Give an idle bus to the slave of a transaction; a busy bus is not given away. -/
def claim (bus : Bus) (transaction : Transaction) : Option Bus :=
  let (won, active) := bus.active.trySet transaction.handle
  if won then some { bus with active, served := bus.served ++ [transaction] } else none

/-- Make the bus idle and answer which slave owned it. -/
def release (bus : Bus) : Option Handle × Bus :=
  let (owner, active) := bus.active.take
  (owner, { bus with active })

/-- Bring up the peripheral, if there is one and this has not been done yet. -/
def configureOnce (bus : Bus) : Bus :=
  match bus.peripheral with
  | none => bus
  | some peripheral =>
    if bus.configured then bus
    else { bus with configured := true, peripheral := some peripheral.configure }

end Bus

end TwoWire
