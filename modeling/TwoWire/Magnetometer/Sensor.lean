import TwoWire.Magnetometer.Calibration
import TwoWire.Magnetometer.RegisterMap
import TwoWire.Magnetometer.SensorError
import TwoWire.Master.Transfer

/-! A magnetometer on a bus: its life, its captures and what is decoded from them.

A data-ready edge starts a capture into the slot at the cursor of the ring, the completion moves
the cursor on, and decoding averages the slots that no capture is writing to.
-/

namespace TwoWire.Magnetometer

/-- Where and how a sensor is operated. -/
structure Config where
  bus : BusId
  address : UInt8
  probeTrials : Nat
  /-- The pause between two readings of the identity in milliseconds. -/
  probeInterval : Nat
  /-- The pause after each configuration write in milliseconds. -/
  settleTime : Nat
  /-- The field strength of one count in gauss. -/
  gaussPerCount : Float32

/-- The settings of a sensor as it is delivered, which counts in thousandths of a gauss. -/
def Config.factory : Config where
  bus := .i2c1
  address := factoryAddress
  probeTrials := 5
  probeInterval := 100
  settleTime := 10
  gaussPerCount := 1 / 1000

/-- The stages in the life of a sensor. A failed bring-up ends in `disabled` for good. -/
inductive State where
  | uninitialized
  | registered
  | probing
  | configured
  | enabled
  | disabled
deriving DecidableEq, Repr

namespace State

def code : State → UInt8
  | uninitialized => 0
  | registered => 1
  | probing => 2
  | configured => 3
  | enabled => 4
  | disabled => 5

def ofCode? (code : UInt8) : Option State :=
  match code with
  | 0 => some uninitialized
  | 1 => some registered
  | 2 => some probing
  | 3 => some configured
  | 4 => some enabled
  | 5 => some disabled
  | _ => none

def unknownCodeMessage (code : UInt8) : String :=
  "No discriminant in enum `State` matches the value `" ++ toString code.toNat ++ "`"

def name : State → String
  | uninitialized => "Uninitialized"
  | registered => "Registered"
  | probing => "Probing"
  | configured => "Configured"
  | enabled => "Enabled"
  | disabled => "Disabled"

/-- A state is found again from its number, by cases. -/
theorem ofCode?_code (state : State)
    : ofCode? state.code = some state := by
  cases state <;> rfl

end State

structure Reading where
  /-- The averaged field in gauss, in the orientation of the board and before calibration. -/
  raw : Axes Float32
  calibrated : Axes Float32
  /-- When it was decoded, in ticks. -/
  timestamp : Nat
deriving DecidableEq

/-- A sensor with all that is known about it. -/
structure Sensor where
  config : Config
  ring : Nat
  state : State
  configured : Bool
  handle : HandleCell
  calibration : Calibration
  reading : Option Reading
  lineEnables : Nat

namespace Sensor

def new (config : Config) (ring : Nat) : Sensor where
  config := config
  ring := ring
  state := .uninitialized
  configured := false
  handle := .empty
  calibration := .identity
  reading := none
  lineEnables := 0

/-- The sensor as an entry of the slave table: completions of its transfers move its ring on. -/
def slave (sensor : Sensor) : Slave :=
  ⟨sensor.config.bus, sensor.config.address, .advanceRing sensor.ring⟩

/-- Register the sensor with its bus master, once. -/
def register (sensor : Sensor) (master : Master) : Except SensorError Handle × Sensor × Master :=
  if sensor.state = .uninitialized then
    match master.register sensor.slave with
    | (.error cause, next) => (.error (.master cause), sensor, next)
    | (.ok handle, next) =>
      (.ok handle, { sensor with handle := .store (some handle), state := .registered }, next)
  else
    (.error .invalidState, sensor, master)

/-- Act on data-ready edges from now on, which only a configured sensor does. -/
def enable (sensor : Sensor) : Except SensorError Unit × Sensor :=
  if sensor.configured then
    (.ok (), { sensor with state := .enabled })
  else
    (.error .invalidState, sensor)

/-- Ignore data-ready edges from now on; a capture in flight still completes. -/
def disable (sensor : Sensor) : Sensor :=
  if sensor.configured then { sensor with state := .disabled } else sensor

/-- The memory that a capture into a slot of a ring writes to. -/
def captureWindow (ring : Nat) (slot : Fin 2) : Window :=
  ⟨.ring ring, SampleRing.slotOffset slot, SampleRing.captureLength⟩

/-- The transfer that captures all axes into the slot at the cursor. -/
def captureRequest (sensor : Sensor) (handle : Handle) (memory : Memory) : Request where
  kind := .read
  handle := handle
  register := Register.outXMsb.address
  window := captureWindow sensor.ring (memory.ring sensor.ring).cursor

/-- Handle a data-ready edge: an enabled sensor begins a capture. While the bus is busy the edge
is dropped, and the capture before it is then left out of the next decoding.
-/
def dataReady (sensor : Sensor) (master : Master) : Master :=
  if sensor.state = .enabled then
    match sensor.handle.load with
    | none => master
    | some handle => (master.tryTransfer (sensor.captureRequest handle master.memory)).2
  else
    master

/-- The sign of each axis in the wiring: the third one counts opposite to the other two. -/
def wiring : Axes Float32 := ⟨1, 1, -1⟩

/-- The slots that decoding averages: all but the one at the cursor while the bus is busy. -/
def usedSlots (cursor : Fin 2) (busy : Bool) : List (Fin 2) :=
  (List.finRange 2).filter fun slot => !(slot = cursor && busy)

/-- The sums of the numbers in some slots of a ring, axis by axis. -/
def sums (ring : SampleRing) (used : List (Fin 2)) : Axes Int :=
  .ofFn fun axis => (used.map fun slot => (ring.sample slot).get axis).foldl (· + ·) 0

/-- The field that sums over a number of captures stand for, before calibration. -/
def rawField (config : Config) (mounting : Mounting) (sums : Axes Int) (used : Nat)
    : Axes Float32 :=
  let scale := config.gaussPerCount / Float32.ofNat used
  .ofFn fun axis =>
    Float32.ofInt (sums.get axis) * scale * mounting.signs.get axis * wiring.get axis

/-- Average the captures that landed and calibrate the result at a temperature. Without an
enabled sensor there is no result and the reading before it is kept.
-/
def decode (sensor : Sensor) (master : Master) (temperature : Float32) (now : Nat)
    : Option Reading × Sensor :=
  if sensor.state = .enabled then
    let ring := master.memory.ring sensor.ring
    let used := usedSlots ring.cursor (master.bus sensor.config.bus).isBusy
    if used.isEmpty then
      (none, sensor)
    else
      let raw := rawField sensor.config sensor.calibration.mounting (sums ring used) used.length
      let reading := ⟨raw, sensor.calibration.correct raw temperature, now⟩
      (some reading, { sensor with reading := some reading })
  else
    (none, sensor)

/-- The field before calibration, as it was decoded last. -/
def raw (sensor : Sensor) : Option (Axes Float32) :=
  sensor.reading.map Reading.raw

/-- The calibrated field, as it was decoded last. -/
def calibrated (sensor : Sensor) : Option (Axes Float32) :=
  sensor.reading.map Reading.calibrated

/-- When the sensor was decoded last, in ticks. -/
def lastUpdate (sensor : Sensor) : Option Nat :=
  sensor.reading.map Reading.timestamp

end Sensor

end TwoWire.Magnetometer
