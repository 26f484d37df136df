import TwoWire.Delay
import TwoWire.Magnetometer.Sensor

/-! Bringing a sensor up: it is identified, told to reset itself before measurements, and set to
measure continuously.

Each step on the bus may wait for the bus and each pause may suspend, so a bring-up goes from one
waiting point to the next. It holds no bus while it waits.
-/

namespace TwoWire.Magnetometer

inductive Goal where
  /-- Read the identity, at most a number of times. -/
  | identify (trials : Nat)
  | enableReset
  | activate
  | finish
deriving DecidableEq, Repr

/-- What a suspended bring-up waits for. -/
inductive Wait where
  | bus (claiming : Claiming)
  /-- The end of a pause, of which these slices are left, before the current step. -/
  | pause (slices : List Nat)

/-- A bring-up that is suspended. -/
structure BringUp where
  handle : Handle
  goal : Goal
  wait : Wait

/-- How far a bring-up got, with the delay and the master that it leaves behind. -/
abbrev Progress := Poll BringUp (Except SensorError Unit) × Delay × Master

namespace BringUp

/-- Go through a pause and then on to the next step. -/
def afterPause (handle : Handle) (goal : Goal) (next : Delay → Master → Progress)
    (slices : List Nat) (delay : Delay) (master : Master)
    : Progress :=
  match delay.pause slices with
  | (.ready (), spent) => next spent master
  | (.pending rest, spent) => (.pending ⟨handle, goal, .pause rest⟩, spent, master)

/-- Go on with the answer of an operation, unless it waits for the bus or fails. -/
def afterOperation (handle : Handle) (goal : Goal) (next : Reply → Delay → Master → Progress)
    (delay : Delay)
    : Poll Claiming (Except MasterError Reply) × Master → Progress
  | (.pending claiming, master) => (.pending ⟨handle, goal, .bus claiming⟩, delay, master)
  | (.ready (.error cause), master) => (.ready (.error (.master cause)), delay, master)
  | (.ready (.ok reply), master) => next reply delay master

def succeed (delay : Delay) (master : Master) : Progress :=
  (.ready (.ok ()), delay, master)

/-- The identity never matched. -/
def fail (delay : Delay) (master : Master) : Progress :=
  (.ready (.error .probeFailed), delay, master)

/-- After the last write the sensor settles and the bring-up is over. -/
def activated (config : Config) (handle : Handle) (_ : Reply) : Delay → Master → Progress :=
  afterPause handle .finish succeed (Delay.milliseconds config.settleTime)

/-- Switch on continuous measurement. -/
def activate (config : Config) (handle : Handle) (delay : Delay) (master : Master) : Progress :=
  afterOperation handle .activate (activated config handle) delay
    (master.start (.writeByte handle Register.ctrlReg1.address activeMode))

/-- After the first write the sensor settles before the second one. -/
def resetEnabled (config : Config) (handle : Handle) (_ : Reply) : Delay → Master → Progress :=
  afterPause handle .activate (activate config handle) (Delay.milliseconds config.settleTime)

/-- Switch on the reset before every measurement. -/
def enableReset (config : Config) (handle : Handle) (delay : Delay) (master : Master)
    : Progress :=
  afterOperation handle .enableReset (resetEnabled config handle) delay
    (master.start (.writeByte handle Register.ctrlReg2.address automaticReset))

/-- Judge what the identity register held. If it does not match, the next trial comes after a
pause; there is no pause when no trial is left.
-/
def identified (config : Config) (handle : Handle) (trials : Nat)
    (again : Delay → Master → Progress) (reply : Reply) (delay : Delay) (master : Master)
    : Progress :=
  if reply = .byte identityCode then
    enableReset config handle delay master
  else if trials = 0 then
    fail delay master
  else
    afterPause handle (.identify trials) again (Delay.milliseconds config.probeInterval)
      delay master

/-- Read the identity until it matches, at most `trials` times. -/
def identify (config : Config) (handle : Handle) : (trials : Nat) → Delay → Master → Progress
  | 0, delay, master => fail delay master
  | trials + 1, delay, master =>
    afterOperation handle (.identify (trials + 1))
      (identified config handle trials (identify config handle trials)) delay
      (master.start (.readByte handle Register.whoAmI.address))

def pursue (config : Config) (handle : Handle) : Goal → Delay → Master → Progress
  | .identify trials => identify config handle trials
  | .enableReset => enableReset config handle
  | .activate => activate config handle
  | .finish => succeed

/-- Go on when the operation of a goal has been answered. -/
def answered (config : Config) (handle : Handle) : Goal → Reply → Delay → Master → Progress
  | .identify trials =>
    identified config handle (trials - 1) (identify config handle (trials - 1))
  | .enableReset => resetEnabled config handle
  | .activate => activated config handle
  | .finish => fun _ => succeed

def resume (config : Config) (bringUp : BringUp) (delay : Delay) (master : Master) : Progress :=
  match bringUp with
  | ⟨handle, goal, .bus claiming⟩ =>
    afterOperation handle goal (answered config handle goal) delay (master.resume claiming)
  | ⟨handle, goal, .pause slices⟩ =>
    afterPause handle goal (pursue config handle goal) slices delay master

end BringUp

namespace Sensor

/-- Record on the sensor how its bring-up ended. A success switches on the data-ready line, a
failure disables the sensor, and a suspended bring-up leaves it as it is.
-/
def settle (sensor : Sensor) : Poll BringUp (Except SensorError Unit) → Sensor
  | .pending _ => sensor
  | .ready (.ok ()) =>
    { sensor with
      configured := true
      state := .configured
      lineEnables := sensor.lineEnables + 1 }
  | .ready (.error _) => { sensor with state := .disabled }

/-- Begin to bring up a registered sensor with the calibration of a parameter table. -/
def startBringUp (sensor : Sensor) (table : ParameterTable) (delay : Delay) (master : Master)
    : Poll BringUp (Except SensorError Unit) × Sensor × Delay × Master :=
  match sensor.handle.load with
  | none => (.ready (.error .notRegistered), sensor, delay, master)
  | some handle =>
    if sensor.state = .registered then
      let probing := { sensor with calibration := .load table, state := .probing }
      let (outcome, spent, next) :=
        BringUp.identify sensor.config handle sensor.config.probeTrials delay master
      (outcome, probing.settle outcome, spent, next)
    else
      (.ready (.error .invalidState), sensor, delay, master)

def resumeBringUp (sensor : Sensor) (bringUp : BringUp) (delay : Delay) (master : Master)
    : Poll BringUp (Except SensorError Unit) × Sensor × Delay × Master :=
  let (outcome, spent, next) := bringUp.resume sensor.config delay master
  (outcome, sensor.settle outcome, spent, next)

end Sensor

end TwoWire.Magnetometer
