import TwoWire.Master
import TwoWire.Poll

/-! Transfers: claiming a bus, driving it, and giving it back.

A transfer of fewer than two bytes is made at once and gives its bus back. A longer one arms a
stream and keeps the bus until the stream completes. Waiting and refusing differ only in what is
answered while the bus is busy.
-/

namespace TwoWire

/-- What a client may wait for. -/
inductive Operation where
  | transfer (request : Request)
  | readByte (handle : Handle) (register : RegisterAddress)
  | writeByte (handle : Handle) (register : RegisterAddress) (value : UInt8)
deriving DecidableEq, Repr

inductive Reply where
  | done
  | byte (value : UInt8)
deriving DecidableEq, Repr

/-- An operation that waits for its bus. The slave was looked up when the operation began. -/
structure Claiming where
  operation : Operation
  slave : Slave

namespace Operation

/-- What an operation does on the bus; one byte is one byte, wherever it comes from. -/
def transaction (operation : Operation) (memory : Memory) : Transaction :=
  match operation with
  | transfer request => request.transaction memory
  | readByte handle register => .readByte handle register
  | writeByte handle register value => .writeByte handle register value

def handle : Operation → Handle
  | transfer request => request.handle
  | readByte handle _ => handle
  | writeByte handle _ _ => handle

def isEmpty : Operation → Bool
  | transfer request => request.window.length = 0
  | _ => false

/-- Drive an operation on a bus that it owns. A single byte is moved at once, for more a stream
is armed.
-/
def drive (operation : Operation) (address : UInt8) (peripheral : Peripheral) (memory : Memory)
    : Reply × Peripheral × Memory :=
  match operation with
  | transfer ⟨.read, _, register, window⟩ =>
    if 2 ≤ window.length then
      (.done, peripheral.openRead address register window, memory)
    else
      let (value, next) := peripheral.readRegister address register
      (.done, next, memory.write window [value])
  | transfer ⟨.write, _, register, window⟩ =>
    if 2 ≤ window.length then
      (.done, peripheral.openWrite address register window, memory)
    else
      (.done, peripheral.writeRegister address register (memory.first window), memory)
  | readByte _ register =>
    let (value, next) := peripheral.readRegister address register
    (.byte value, next, memory)
  | writeByte _ register value =>
    (.done, peripheral.writeRegister address register value, memory)

@[simp] theorem handle_transaction (operation : Operation) (memory : Memory)
    : (operation.transaction memory).handle = operation.handle := by
  cases operation with
  | transfer request =>
      obtain ⟨kind, _, _, _⟩ := request
      simp only [transaction, handle, Request.transaction]
      split
      · rfl
      · cases kind <;> rfl
  | readByte => rfl
  | writeByte => rfl

end Operation

namespace Master

/-- Claim the bus of a slave for an operation and drive it; nothing happens on a busy bus. -/
def attempt (master : Master) (slave : Slave) (operation : Operation)
    : Option (Reply × Master) := do
  let transaction := operation.transaction master.memory
  let bus ← (master.bus slave.bus).claim transaction
  let peripheral ← bus.peripheral
  let (reply, next, memory) := operation.drive slave.address peripheral master.memory
  let driven := { bus with peripheral := some next }
  let left := if transaction.isStream then driven else driven.release.2
  return (reply, { master.setBus slave.bus left with memory })

/-- Begin an operation: look up its slave, and wait if the bus is busy. -/
def start (master : Master) (operation : Operation)
    : Poll Claiming (Except MasterError Reply) × Master :=
  match master.resolve operation.handle with
  | .error cause => (.ready (.error cause), master)
  | .ok slave =>
    if operation.isEmpty then
      (.ready (.ok .done), master)
    else
      match master.attempt slave operation with
      | none => (.pending ⟨operation, slave⟩, master)
      | some (reply, next) => (.ready (.ok reply), next)

/-- Try again an operation that waits for its bus. -/
def resume (master : Master) (claiming : Claiming)
    : Poll Claiming (Except MasterError Reply) × Master :=
  match master.attempt claiming.slave claiming.operation with
  | none => (.pending claiming, master)
  | some (reply, next) => (.ready (.ok reply), next)

/-- Begin a transfer without waiting: a busy bus refuses it. -/
def tryTransfer (master : Master) (request : Request) : Except MasterError Unit × Master :=
  match master.resolve request.handle with
  | .error cause => (.error cause, master)
  | .ok slave =>
    if request.window.length = 0 then
      (.ok (), master)
    else
      match master.attempt slave (.transfer request) with
      | none => (.error .busy, master)
      | some (_, next) => (.ok (), next)

/-- Begin transfers without waiting, one after the other, and tell what was answered to each. -/
def tryTransfers (master : Master)
    : List Request → List (Request × Except MasterError Unit) × Master
  | [] => ([], master)
  | request :: rest =>
    let (answer, next) := master.tryTransfer request
    let (asked, last) := tryTransfers next rest
    ((request, answer) :: asked, last)

end Master

end TwoWire
