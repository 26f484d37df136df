import TwoWire.Handle
import TwoWire.Memory

/-! What clients ask of the master: transfers between memory and the registers of a slave. -/

namespace TwoWire

/-- How many bytes of a register address are sent. -/
inductive AddressWidth where
  /-- One byte, as sensors want it. -/
  | bits8
  /-- The high byte and then the low byte, as memories want it. -/
  | bits16
deriving DecidableEq, Repr

/-- The register of a slave at which a transfer starts. -/
structure RegisterAddress where
  width : AddressWidth
  number : UInt16
deriving DecidableEq, Repr

namespace RegisterAddress

def high (register : RegisterAddress) : UInt8 :=
  (register.number >>> 8).toUInt8

def low (register : RegisterAddress) : UInt8 :=
  register.number.toUInt8

end RegisterAddress

inductive TransferKind where
  | read
  | write
deriving DecidableEq, Repr

/-- A transfer that a client asks for. -/
structure Request where
  kind : TransferKind
  /-- The slave, which need not exist. -/
  handle : Handle
  register : RegisterAddress
  window : Window
deriving DecidableEq, Repr

/-- Something that occupies a bus for a while. -/
inductive Transaction where
  /-- One byte is read by the processor. -/
  | readByte (handle : Handle) (register : RegisterAddress)
  | writeByte (handle : Handle) (register : RegisterAddress) (value : UInt8)
  /-- Several bytes are moved by a stream. -/
  | stream (kind : TransferKind) (handle : Handle) (register : RegisterAddress)
    (window : Window)
  /-- A slave is addressed until it acknowledges. -/
  | probe (handle : Handle)
deriving DecidableEq, Repr

namespace Transaction

def handle : Transaction → Handle
  | readByte handle _ => handle
  | writeByte handle _ _ => handle
  | stream _ handle _ _ => handle
  | probe handle => handle

/-- Whether the transaction is moved by a stream, which goes on when it has been set in motion. -/
def isStream : Transaction → Bool
  | stream .. => true
  | _ => false

end Transaction

/-- What a request does on the bus while the memory is as it is; a stream moves two or more
bytes.
-/
def Request.transaction (request : Request) (memory : Memory) : Transaction :=
  if 2 ≤ request.window.length then
    .stream request.kind request.handle request.register request.window
  else
    match request.kind with
    | .read => .readByte request.handle request.register
    | .write => .writeByte request.handle request.register (memory.first request.window)

end TwoWire
