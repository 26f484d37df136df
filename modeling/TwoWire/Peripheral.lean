import TwoWire.Memory
import TwoWire.Peripheral.Pace
import TwoWire.Peripheral.Script

/-! A simulated bus peripheral with its two streams.

The far side of the bus follows a script, and a stream transfer stays armed until it is finished
from outside. Each access is recorded twice: commands in a log of bounded size, and commands
together with the answered questions in an unbounded trace.
-/

namespace TwoWire

inductive AddressState where
  | idle
  | acknowledged
  | refused
deriving DecidableEq, Repr

/-- The state of a simulated peripheral. -/
structure Peripheral where
  /-- The commands given, as far as they fit. -/
  log : List Command
  /-- Every access made. -/
  trace : List Access
  /-- The stream that was armed last and not finished yet, with its memory. -/
  armed : Option (Stream × Window)
  txComplete : Bool
  rxComplete : Bool
  address : AddressState
  script : Script
  pace : Pace

namespace Peripheral

/-- How many commands the log holds; later ones are not recorded in it. -/
def logCapacity : Nat := 256

/-- How many bytes of a finished transmission are told; later ones are left out. -/
def sentCapacity : Nat := 64

def new (pace : Pace) : Peripheral where
  log := []
  trace := []
  armed := none
  txComplete := false
  rxComplete := false
  address := .idle
  script := .new
  pace := pace

/-! ### Commands -/

def observe (peripheral : Peripheral) (access : Access) : Peripheral :=
  { peripheral with trace := peripheral.trace ++ [access] }

/-- Record a command in the trace, and in the log while there is room. -/
def issue (peripheral : Peripheral) (command : Command) : Peripheral :=
  { peripheral with
    log :=
      if peripheral.log.length < logCapacity then peripheral.log ++ [command]
      else peripheral.log
    trace := peripheral.trace ++ [.command command] }

def configure (peripheral : Peripheral) : Peripheral :=
  peripheral.issue .configure

def start (peripheral : Peripheral) : Peripheral :=
  peripheral.issue .start

def stop (peripheral : Peripheral) : Peripheral :=
  peripheral.issue .stop

/-- Send an address, which is acknowledged or refused and begins to settle. -/
def sendAddress (peripheral : Peripheral) (address : UInt8) (direction : Direction)
    : Peripheral :=
  let (refused, script) := peripheral.script.address direction
  { peripheral.issue (.address address direction) with
    address := if refused then .refused else .acknowledged
    script := script
    pace := peripheral.pace.settle }

def send (peripheral : Peripheral) (value : UInt8) : Peripheral :=
  peripheral.issue (.send value)

def receive (peripheral : Peripheral) : UInt8 × Peripheral :=
  let (value, script) := peripheral.script.nextByte
  (value, { peripheral.issue (.receive value) with script := script })

def clearAddress (peripheral : Peripheral) : Peripheral :=
  { peripheral.issue .clearAddress with
    address := if peripheral.address = .acknowledged then .idle else peripheral.address }

def clearAckFailure (peripheral : Peripheral) : Peripheral :=
  { peripheral.issue .clearAckFailure with
    address := if peripheral.address = .refused then .idle else peripheral.address }

def enableAck (peripheral : Peripheral) (enable : Bool) : Peripheral :=
  peripheral.issue (.ack enable)

/-- Refuse the last byte of the next stream reception, or stop doing so. -/
def enableLastTransfer (peripheral : Peripheral) (enable : Bool) : Peripheral :=
  peripheral.issue (.lastTransfer enable)

/-- Let the peripheral ask its streams for bytes, or stop doing so. -/
def enableRequests (peripheral : Peripheral) (enable : Bool) : Peripheral :=
  peripheral.issue (.dmaRequests enable)

/-- Arm a stream on a window, in place of any transfer armed before. -/
def arm (peripheral : Peripheral) (stream : Stream) (window : Window) : Peripheral :=
  { peripheral.issue (.arm stream window.length) with armed := some (stream, window) }

/-- Disable a stream; what is armed stays armed. -/
def disable (peripheral : Peripheral) (stream : Stream) : Peripheral :=
  peripheral.issue (.disable stream)

/-! ### Questions -/

/-- Ask whether the current wait is over, and record the question with its answer. -/
def askReady (peripheral : Peripheral) (record : Bool → Access) : Bool × Peripheral :=
  let (seen, pace) := peripheral.pace.ready
  (seen, { peripheral with pace := pace }.observe (record seen))

def askEvent (peripheral : Peripheral) (event : Event) : Bool × Peripheral :=
  peripheral.askReady (.event event)

/-- Ask for a flag. The flags of the address are known only when it has settled, and only a
question for a refusal lets it settle.
-/
def askFlag (peripheral : Peripheral) (flag : Flag) : Bool × Peripheral :=
  match flag with
  | .byteTransferFinished | .rxNotEmpty => peripheral.askReady (.flag flag)
  | .addressSent =>
    let seen := decide (peripheral.pace.settling = 0 ∧ peripheral.address = .acknowledged)
    (seen, peripheral.observe (.flag flag seen))
  | .acknowledgeFailure =>
    let seen := decide (peripheral.pace.settling = 0 ∧ peripheral.address = .refused)
    (seen, { peripheral with pace := peripheral.pace.settleOnce }.observe (.flag flag seen))

def askStopHeld (peripheral : Peripheral) : Bool × Peripheral :=
  let (released, next) := peripheral.askReady fun released => .stopHeld (!released)
  (!released, next)

def completed (peripheral : Peripheral) : Stream → Bool
  | .tx => peripheral.txComplete
  | .rx => peripheral.rxComplete

def setCompleted (peripheral : Peripheral) (stream : Stream) (value : Bool) : Peripheral :=
  match stream with
  | .tx => { peripheral with txComplete := value }
  | .rx => { peripheral with rxComplete := value }

/-- Read the transfer-complete flag of a stream and clear it. -/
def takeCompleted (peripheral : Peripheral) (stream : Stream) : Bool × Peripheral :=
  let seen := peripheral.completed stream
  (seen, (peripheral.setCompleted stream false).observe (.completed stream seen))

/-! ### Waits -/

/-- Ask until the answer is yes, at most `refusals` times more than once. -/
def askUntil (ask : Peripheral → Bool × Peripheral)
    : (refusals : Nat) → Peripheral → Peripheral
  | 0, peripheral => (ask peripheral).2
  | refusals + 1, peripheral =>
    let (seen, next) := ask peripheral
    if seen then next else askUntil ask refusals next

/-- Wait for an event; the pace says how many refusals come first. -/
def awaitEvent (peripheral : Peripheral) (event : Event) : Peripheral :=
  peripheral.askUntil (askEvent · event) peripheral.pace.pending

/-- Wait for a flag that is not about an address. -/
def awaitFlag (peripheral : Peripheral) (flag : Flag) : Peripheral :=
  peripheral.askUntil (askFlag · flag) peripheral.pace.pending

def awaitStop (peripheral : Peripheral) : Peripheral :=
  peripheral.askUntil (fun current => current.askStopHeld.map (!·) id) peripheral.pace.pending

/-- Ask whether the last address is acknowledged and, if it is not, whether it is refused. -/
def askAnswered (peripheral : Peripheral) : Bool × Peripheral :=
  let (acknowledged, next) := peripheral.askFlag .addressSent
  if acknowledged then (true, next) else next.askFlag .acknowledgeFailure

/-- Wait until the last address is known to be acknowledged or known to be refused. -/
def awaitAnswer (peripheral : Peripheral) : Peripheral :=
  peripheral.askUntil askAnswered peripheral.pace.settling

/-! ### The far side -/

def arrange (peripheral : Peripheral) (arrangement : Arrangement) : Peripheral :=
  { peripheral with script := arrangement.apply peripheral.script }

def forget (peripheral : Peripheral) : Peripheral :=
  { peripheral with log := [], trace := [] }

/-- Take away the transfer armed on `stream`, if there is one. -/
def takeArmed (peripheral : Peripheral) (stream : Stream) : Option (Window × Peripheral) :=
  match peripheral.armed with
  | some (current, window) =>
    if current = stream then some (window, { peripheral with armed := none }) else none
  | none => none

/-- Let `data` arrive for the armed reception and raise its transfer-complete flag; nothing
happens unless a reception is armed.
-/
def deliver (peripheral : Peripheral) (memory : Memory) (data : List UInt8)
    : Option (Peripheral × Memory) :=
  (peripheral.takeArmed .rx).map fun (window, next) =>
    (next.setCompleted .rx true, memory.write window data)

/-- Send out the armed transmission, tell its first bytes and raise its transfer-complete flag;
nothing happens unless a transmission is armed.
-/
def drain (peripheral : Peripheral) (memory : Memory) : Option (List UInt8 × Peripheral) :=
  (peripheral.takeArmed .tx).map fun (window, next) =>
    ((memory.read window).take sentCapacity, next.setCompleted .tx true)

/-! ### Records -/

def countLogged (peripheral : Peripheral) (command : Command) : Nat :=
  peripheral.log.count command

def commands (peripheral : Peripheral) : List Command :=
  peripheral.trace.filterMap Access.command?

/-- The commands that were logged after an earlier state. -/
def loggedSince (peripheral earlier : Peripheral) : List Command :=
  peripheral.log.drop earlier.log.length

/-- The accesses that were traced after an earlier state. -/
def tracedSince (peripheral earlier : Peripheral) : List Access :=
  peripheral.trace.drop earlier.trace.length

end Peripheral

end TwoWire
