import TwoWire.Delay
import TwoWire.Magnetometer.Sensor
import TwoWire.Master.Completion
import TwoWire.Peripheral.Manual

/-! What is answered to the actions on a bench. -/

namespace TwoWire

open Magnetometer

inductive Result where
  | done
  | pending
  | truth (value : Bool)
  | byte (value : UInt8)
  /-- The bytes that were sent out, if there were any to send. -/
  | sent (data : Option (List UInt8))
  | registered (handle : Handle)
  | decoded (reading : Option Reading)
  | masterError (cause : MasterError)
  | sensorError (cause : SensorError)
  | noPeripheral
  | noTask
  | noSensor
deriving DecidableEq

namespace Result

/-- The result of a request to the master, given how a success is told. -/
def ofMaster {α : Type} (success : α → Result) : Except MasterError α → Result
  | .ok value => success value
  | .error cause => masterError cause

/-- The result of an operation of a sensor, given how a success is told. -/
def ofSensor {α : Type} (success : α → Result) : Except SensorError α → Result
  | .ok value => success value
  | .error cause => sensorError cause

def ofReply : Reply → Result
  | .done => done
  | .byte value => byte value

def ofManual : ManualAnswer → Result
  | .done => done
  | .truth value => truth value
  | .byte value => byte value

end Result

structure Answer where
  result : Result
  /-- What was asked of the delay so far, for actions that have one. -/
  delay : Option Delay
  notice : Option Notice

def Answer.ofResult (result : Result) : Answer := ⟨result, none, none⟩

end TwoWire
