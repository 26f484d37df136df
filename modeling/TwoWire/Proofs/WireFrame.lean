import TwoWire.Master.Standby

/-! Frames as they stand on the wire: the commands of one transaction from its first start
condition to its last command, and the part that is there while the transaction goes on.
-/

namespace TwoWire

/-- The stream that moves the bytes of a transfer. -/
def TransferKind.stream : TransferKind → Stream
  | .read => .rx
  | .write => .tx

theorem TransferKind.stream_injective {kind other : TransferKind}
    (same : kind.stream = other.stream)
    : kind = other := by
  cases kind <;> cases other <;> first | rfl | cases same

/-- One frame with everything that can be told from its commands. -/
inductive WireFrame where
  | readByte (address : UInt8) (register : RegisterAddress) (value : UInt8)
  | writeByte (address : UInt8) (register : RegisterAddress) (value : UInt8)
  | stream (kind : TransferKind) (address : UInt8) (register : RegisterAddress) (length : Nat)
  /-- A slave refuses its address a number of times, and then acknowledges it or not. -/
  | probe (address : UInt8) (refusals : Nat) (acknowledged : Bool)
deriving DecidableEq, Repr

namespace WireFrame

/-- The slave is addressed and told the register, high byte first. -/
def selection (address : UInt8) (register : RegisterAddress) : List Command :=
  [.start, .address address .transmitter]
    ++ (match register.width with
      | .bits8 => []
      | .bits16 => [.send register.high])
    ++ [.send register.low]

/-- The slave is addressed once more, now for receiving. -/
def turnaround (address : UInt8) : List Command :=
  [.start, .address address .receiver]

/-- What a stream transfer says before its stream runs. -/
def opening (kind : TransferKind) (address : UInt8) (register : RegisterAddress) (length : Nat)
    : List Command :=
  selection address register
    ++ match kind with
      | .read =>
        turnaround address ++ [.arm .rx length, .lastTransfer true, .dmaRequests true]
      | .write => [.arm .tx length, .dmaRequests true]

/-- What a stream transfer says when its stream has completed. -/
def closing : TransferKind → List Command
  | .read => [.stop, .disable .rx, .dmaRequests false, .ack true]
  | .write => [.disable .tx, .dmaRequests false, .stop]

def refusal (address : UInt8) : List Command :=
  [.start, .address address .transmitter, .clearAckFailure]

def acknowledgement (address : UInt8) : List Command :=
  [.start, .address address .transmitter, .clearAddress, .stop]

/-- A number of trials that were all refused. -/
def refusals (address : UInt8) (count : Nat) : List Command :=
  (List.replicate count (refusal address)).flatten

/-- The commands of a whole frame. -/
def commands : WireFrame → List Command
  | readByte address register value =>
    selection address register ++ turnaround address
      ++ [.ack false, .clearAddress, .stop, .receive value, .ack true]
  | writeByte address register value => selection address register ++ [.send value, .stop]
  | stream kind address register length =>
    opening kind address register length ++ closing kind
  | probe address count acknowledged =>
    refusals address count ++ if acknowledged then acknowledgement address else [.stop]

/-- The commands that are there while the transaction goes on. Single bytes are moved in one
piece, so nothing of them is ever seen alone.
-/
def begun : WireFrame → List Command
  | readByte .. | writeByte .. => []
  | stream kind address register length => opening kind address register length
  | probe address count _ => refusals address count

/-- The frame is one that a transaction with this slave can leave on the wire. The byte that was
read and the refusals of a probe are up to the slave, but no slave is addressed more often than
the probe allows.
-/
inductive IsOf (slave : Slave) : Transaction → WireFrame → Prop
  | readByte {handle register} (value : UInt8)
    : IsOf slave (.readByte handle register) (.readByte slave.address register value)
  | writeByte {handle register value}
    : IsOf slave (.writeByte handle register value) (.writeByte slave.address register value)
  | stream {kind handle register window}
    : IsOf slave (.stream kind handle register window)
        (.stream kind slave.address register window.length)
  | acknowledged {handle count} (left : count < Standby.trials)
    : IsOf slave (.probe handle) (.probe slave.address count true)
  | exhausted {handle}
    : IsOf slave (.probe handle) (.probe slave.address Standby.trials false)

@[simp] theorem refusals_zero (address : UInt8)
    : refusals address 0 = [] := rfl

/-- Trials that follow each other add up, since each says the same. -/
theorem refusals_add (address : UInt8) (first second : Nat)
    : refusals address (first + second) = refusals address first ++ refusals address second := by
  rw [refusals, ← List.replicate_append_replicate, List.flatten_append]
  rfl

theorem refusals_succ (address : UInt8) (count : Nat)
    : refusals address (count + 1) = refusal address ++ refusals address count := by
  simp [refusals, List.replicate_succ]

@[simp] theorem length_refusals (address : UInt8) (count : Nat)
    : (refusals address count).length = count * 3 := by
  simp [refusals, refusal]

end WireFrame

end TwoWire
