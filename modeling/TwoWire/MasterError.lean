import TwoWire.Hex

/-! Why a request to the bus master is refused or fails. -/

namespace TwoWire

/-- Causes of failure. Ordinary transfers have no timeout: a slave that never answers stalls its
caller, so only the standby probe can time out.
-/
inductive MasterError where
  | tableFull
  | unknownBus
  | invalidAddress (address : UInt8)
  | alreadyRegistered
  | unknownSlave
  /-- The standby probe used up its trials without an acknowledgement. -/
  | standbyTimeout
  | busy
deriving DecidableEq, Repr

namespace MasterError

/-- The short name of a cause, with the offending address in decimal. -/
def label : MasterError → String
  | tableFull => "RegistryFull"
  | unknownBus => "UnknownBus"
  | invalidAddress address => "InvalidAddress(" ++ toString address.toNat ++ ")"
  | alreadyRegistered => "AlreadyRegistered"
  | unknownSlave => "UnknownSlave"
  | standbyTimeout => "StandbyTimeout"
  | busy => "Busy"

def message : MasterError → String
  | tableFull => "slave registry is full"
  | unknownBus => "unknown bus instance"
  | invalidAddress address => "invalid 7-bit address: 0x" ++ Hex.byte address
  | alreadyRegistered => "slave already registered on this bus"
  | unknownSlave => "unknown slave handle"
  | standbyTimeout => "device did not acknowledge within the trial budget"
  | busy => "bus has a transaction in flight"

end MasterError

end TwoWire
