import TwoWire.MasterError

/-! Why an operation of a sensor is refused or fails. -/

namespace TwoWire.Magnetometer

inductive SensorError where
  | master (cause : MasterError)
  /-- The identity never matched within the trials; the sensor stays disabled. -/
  | probeFailed
  | notRegistered
  | invalidState
deriving DecidableEq, Repr

namespace SensorError

def label : SensorError → String
  | master cause => "Bus(" ++ cause.label ++ ")"
  | probeFailed => "ProbeFailed"
  | notRegistered => "NotRegistered"
  | invalidState => "InvalidState"

def message : SensorError → String
  | master cause => "bus error: " ++ cause.message
  | probeFailed => "MAG3110 not found"
  | notRegistered => "sensor not registered on a bus"
  | invalidState => "invalid sensor state"

end SensorError

end TwoWire.Magnetometer
