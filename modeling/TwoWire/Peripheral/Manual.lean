import TwoWire.Peripheral

/-! Accesses of a peripheral that are made by hand and not by a master. -/

namespace TwoWire

inductive ManualAccess where
  | configure
  | start
  | stop
  | stopHeld
  | address (address : UInt8) (direction : Direction)
  | send (value : UInt8)
  | receive
  | event (event : Event)
  | flag (flag : Flag)
  | clearAddress
  | clearAckFailure
  | ack (enable : Bool)
  /-- Refuse the last byte of the next stream reception, or stop doing so. -/
  | lastTransfer (enable : Bool)
  /-- Let the peripheral ask its streams for bytes, or stop doing so. -/
  | dmaRequests (enable : Bool)
  | arm (stream : Stream) (window : Window)
  | disable (stream : Stream)
  | takeCompleted (stream : Stream)
deriving DecidableEq, Repr

inductive ManualAnswer where
  | done
  | truth (value : Bool)
  | byte (value : UInt8)
deriving DecidableEq, Repr

def ManualAccess.apply (peripheral : Peripheral) : ManualAccess → ManualAnswer × Peripheral
  | configure => (.done, peripheral.configure)
  | start => (.done, peripheral.start)
  | stop => (.done, peripheral.stop)
  | stopHeld => peripheral.askStopHeld.map .truth id
  | address value direction => (.done, peripheral.sendAddress value direction)
  | send value => (.done, peripheral.send value)
  | receive => peripheral.receive.map .byte id
  | event kind => (peripheral.askEvent kind).map .truth id
  | flag kind => (peripheral.askFlag kind).map .truth id
  | clearAddress => (.done, peripheral.clearAddress)
  | clearAckFailure => (.done, peripheral.clearAckFailure)
  | ack enable => (.done, peripheral.enableAck enable)
  | lastTransfer enable => (.done, peripheral.enableLastTransfer enable)
  | dmaRequests enable => (.done, peripheral.enableRequests enable)
  | arm stream window => (.done, peripheral.arm stream window)
  | disable stream => (.done, peripheral.disable stream)
  | takeCompleted stream => (peripheral.takeCompleted stream).map .truth id

end TwoWire
