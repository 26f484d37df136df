import TwoWire.Peripheral
import TwoWire.Request

/-! The frames of a transaction on the wire, as sequences of commands and waits.

Single bytes are moved by the processor in one piece. Longer transfers open a frame and leave the
rest to a stream; the frame is closed when the stream has completed.
-/

namespace TwoWire.Peripheral

/-- Address the slave for sending and send the register address, whose last byte is left in
flight.
-/
def sendRegister (peripheral : Peripheral) (address : UInt8) (register : RegisterAddress)
    : Peripheral :=
  let addressed :=
    peripheral.start
      |>.awaitEvent .masterModeSelect
      |>.sendAddress address .transmitter
      |>.awaitEvent .transmitterModeSelected
  match register.width with
  | .bits8 => addressed.send register.low
  | .bits16 => ((addressed.send register.high).awaitEvent .byteTransmitted).send register.low

/-- Turn the bus around: address the same slave again, now for receiving. -/
def readdress (peripheral : Peripheral) (address : UInt8) : Peripheral :=
  peripheral.start
    |>.awaitEvent .masterModeSelect
    |>.sendAddress address .receiver
    |>.awaitEvent .receiverModeSelected

/-- Read one register. The byte is refused and the stop condition queued before it arrives,
which is how a reception of a single byte must end.
-/
def readRegister (peripheral : Peripheral) (address : UInt8) (register : RegisterAddress)
    : UInt8 × Peripheral :=
  let (value, received) :=
    (peripheral.sendRegister address register).awaitEvent .byteTransmitted
      |>.readdress address
      |>.enableAck false
      |>.clearAddress
      |>.stop
      |>.awaitFlag .rxNotEmpty
      |>.receive
  (value, received.awaitStop.enableAck true)

def writeRegister (peripheral : Peripheral) (address : UInt8) (register : RegisterAddress)
    (value : UInt8)
    : Peripheral :=
  (peripheral.sendRegister address register).awaitEvent .byteTransmitted
    |>.send value
    |>.awaitEvent .byteTransmitted
    |>.stop

/-- Open the frame of a stream reception into a window. -/
def openRead (peripheral : Peripheral) (address : UInt8) (register : RegisterAddress)
    (window : Window)
    : Peripheral :=
  (peripheral.sendRegister address register).awaitFlag .byteTransferFinished
    |>.readdress address
    |>.arm .rx window
    |>.enableLastTransfer true
    |>.enableRequests true

/-- Open the frame of a stream transmission from a window. -/
def openWrite (peripheral : Peripheral) (address : UInt8) (register : RegisterAddress)
    (window : Window)
    : Peripheral :=
  (peripheral.sendRegister address register).awaitEvent .byteTransmitting
    |>.arm .tx window
    |>.enableRequests true

/-- Close the frame of a stream. After a reception acknowledging is switched on again, since
refusing the last byte switched it off. A sending stream completes when its last byte is loaded,
so the stop condition waits until that byte has left.
-/
def closeFrame (peripheral : Peripheral) : Stream → Peripheral
  | .rx =>
    peripheral.stop
      |>.disable .rx
      |>.enableRequests false
      |>.enableAck true
  | .tx =>
    peripheral.disable .tx
      |>.enableRequests false
      |>.awaitFlag .byteTransferFinished
      |>.stop

/-- Address the slave once and tell whether it acknowledged; if it did, the frame is ended. -/
def probe (peripheral : Peripheral) (address : UInt8) : Bool × Peripheral :=
  let answered :=
    peripheral.start
      |>.awaitEvent .masterModeSelect
      |>.sendAddress address .transmitter
      |>.awaitAnswer
  let (acknowledged, next) := answered.askFlag .addressSent
  if acknowledged then (true, next.clearAddress.stop) else (false, next.clearAckFailure)

end TwoWire.Peripheral
