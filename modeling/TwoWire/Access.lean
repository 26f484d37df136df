/-! What a master says to a bus peripheral and what it asks of it.

Commands change the peripheral, questions only ask for its status. A trace of both shows every
access in the order in which it was made.
-/

namespace TwoWire

/-- The two ways in which a slave is addressed. -/
inductive Direction where
  /-- The master sends. -/
  | transmitter
  /-- The master receives. -/
  | receiver
deriving DecidableEq, Repr

/-- The two streams that move bytes between memory and a peripheral. -/
inductive Stream where
  /-- From memory to the bus. -/
  | tx
  /-- From the bus to memory. -/
  | rx
deriving DecidableEq, Repr

/-- Compound conditions of the master, each a combination of status flags. -/
inductive Event where
  /-- The start condition is out and the bus belongs to this master. -/
  | masterModeSelect
  | transmitterModeSelected
  | receiverModeSelected
  /-- The last byte was shifted out and acknowledged. -/
  | byteTransmitted
  /-- The next byte may be loaded while the last one is still being shifted out. -/
  | byteTransmitting
deriving DecidableEq, Repr

inductive Flag where
  | byteTransferFinished
  | rxNotEmpty
  | addressSent
  | acknowledgeFailure
deriving DecidableEq, Repr

/-- One access that changes the peripheral, as it is recorded. -/
inductive Command where
  | configure
  | start
  | stop
  | address (address : UInt8) (direction : Direction)
  | send (value : UInt8)
  | receive (value : UInt8)
  | ack (enable : Bool)
  /-- Refuse the last byte of the next stream reception, or stop doing so. -/
  | lastTransfer (enable : Bool)
  /-- Let the peripheral ask its streams for bytes, or stop doing so. -/
  | dmaRequests (enable : Bool)
  /-- Point a stream at a number of bytes and enable it. -/
  | arm (stream : Stream) (length : Nat)
  | disable (stream : Stream)
  | clearAddress
  | clearAckFailure
deriving DecidableEq, Repr

/-- One access of any kind, with the answer that a question got. -/
inductive Access where
  | command (command : Command)
  | event (event : Event) (seen : Bool)
  | flag (flag : Flag) (seen : Bool)
  | stopHeld (seen : Bool)
  /-- The transfer-complete flag of a stream was read and cleared. -/
  | completed (stream : Stream) (seen : Bool)
deriving DecidableEq, Repr

def Direction.name : Direction → String
  | transmitter => "Transmitter"
  | receiver => "Receiver"

def Stream.name : Stream → String
  | tx => "Tx"
  | rx => "Rx"

def Event.name : Event → String
  | masterModeSelect => "MasterModeSelect"
  | transmitterModeSelected => "TransmitterModeSelected"
  | receiverModeSelected => "ReceiverModeSelected"
  | byteTransmitted => "ByteTransmitted"
  | byteTransmitting => "ByteTransmitting"

def Flag.name : Flag → String
  | byteTransferFinished => "ByteTransferFinished"
  | rxNotEmpty => "RxNotEmpty"
  | addressSent => "AddressSent"
  | acknowledgeFailure => "AcknowledgeFailure"

def boolText (value : Bool) : String :=
  if value then "true" else "false"

/-- A command as it is written in a log. -/
def Command.text : Command → String
  | configure => "Configure"
  | start => "Start"
  | stop => "Stop"
  | address a direction => "Address(" ++ toString a.toNat ++ ", " ++ direction.name ++ ")"
  | send value => "Send(" ++ toString value.toNat ++ ")"
  | receive value => "Receive(" ++ toString value.toNat ++ ")"
  | ack enable => "Ack(" ++ boolText enable ++ ")"
  | lastTransfer enable => "LastTransfer(" ++ boolText enable ++ ")"
  | dmaRequests enable => "DmaRequests(" ++ boolText enable ++ ")"
  | arm stream length => "Arm(" ++ stream.name ++ ", " ++ toString length ++ ")"
  | disable stream => "Disable(" ++ stream.name ++ ")"
  | clearAddress => "ClearAddress"
  | clearAckFailure => "ClearAckFailure"

namespace Access

/-- An access as it is written in a trace: questions are followed by their answer. -/
def text : Access → String
  | command c => c.text
  | event e seen => "event(" ++ e.name ++ ")=" ++ boolText seen
  | flag f seen => "flag(" ++ f.name ++ ")=" ++ boolText seen
  | stopHeld seen => "stop_pending=" ++ boolText seen
  | completed stream seen => "complete(" ++ stream.name ++ ")=" ++ boolText seen

/-- The command of an access that gives one. -/
def command? : Access → Option Command
  | command c => some c
  | _ => none

end Access

end TwoWire
