import TwoWire.Magnetometer.BringUp
import TwoWire.Proofs.Moves

/-! What a sensor does with its bus: its bring-up moves single bytes, and a data-ready edge serves
at most one capture.
-/

namespace TwoWire

open Scene
open Magnetometer

/-- The operation moves the byte of a register and needs no memory. -/
inductive Operation.IsSingle : Operation → Prop
  | readByte {handle register} : IsSingle (.readByte handle register)
  | writeByte {handle register value} : IsSingle (.writeByte handle register value)

theorem Operation.IsSingle.isEmpty_eq {operation : Operation} (single : operation.IsSingle)
    : operation.isEmpty = false := by
  cases single <;> rfl

/-- A single byte takes no stream, however far the operation gets. -/
theorem Operation.IsSingle.accepted_eq_nil {operation : Operation} (single : operation.IsSingle)
    (outcome : Poll Claiming (Except MasterError Reply))
    : operation.accepted outcome = [] := by
  match outcome with
  | .pending _ | .ready (.error _) => rfl
  | .ready (.ok _) => cases single <;> rfl

namespace Magnetometer

namespace BringUp

/-- A bring-up moves single bytes, and knows the slave of what it waits to do. -/
structure Goes (master : Master) (progress : Progress) : Prop where
  serves : master.Serves .bringUp Operation.IsSingle [] progress.2.2
  waits
    : ∀ rest claiming, progress.1 = .pending rest → rest.wait = .bus claiming
      → claiming.operation.IsSingle ∧ progress.2.2.Knows claiming

variable {config : Config} {handle : Handle} {goal : Goal}

theorem goes_succeed (delay : Delay) (master : Master)
    : Goes master (succeed delay master) :=
  ⟨.done, by simp [succeed]⟩

theorem goes_fail (delay : Delay) (master : Master)
    : Goes master (fail delay master) :=
  ⟨.done, by simp [fail]⟩

/-- A pause touches no bus, and who is suspended in it waits for no bus. -/
theorem goes_afterPause {next : Delay → Master → Progress}
    (goes : ∀ delay master, Goes master (next delay master)) (slices : List Nat)
    (delay : Delay) (master : Master)
    : Goes master (afterPause handle goal next slices delay master) := by
  unfold afterPause
  cases delay.pause slices with
  | mk outcome spent =>
      cases outcome with
      | ready => exact goes spent master
      | pending rest =>
          refine ⟨.done, ?_⟩
          intro waiting claiming given same
          cases given
          simp at same

/-- After an operation of a single byte the bring-up goes on, unless it waits or fails. -/
theorem goes_afterOperation {next : Reply → Delay → Master → Progress} {master : Master}
    {operation : Operation} (single : operation.IsSingle)
    {outcome : Poll Claiming (Except MasterError Reply) × Master}
    (settles : master.Settles .bringUp Operation.IsSingle operation outcome)
    (goes : ∀ reply delay master, Goes master (next reply delay master)) (delay : Delay)
    : Goes master (afterOperation handle goal next delay outcome) := by
  obtain ⟨outcome, after⟩ := outcome
  obtain ⟨serves, waits⟩ := settles
  rw [single.accepted_eq_nil] at serves
  cases outcome with
  | pending claiming =>
      refine ⟨serves, ?_⟩
      intro rest waiting given same
      cases given
      obtain rfl := Wait.bus.inj same
      obtain ⟨single, known⟩ := waits claiming rfl
      exact ⟨single, (congrArg (SlaveTable.get? · _) serves.slaves).trans known⟩
  | ready answer =>
      cases answer with
      | error cause => exact ⟨serves, by simp [afterOperation]⟩
      | ok reply =>
          have later := goes reply delay after
          exact ⟨serves.trans later.serves, later.waits⟩

-----------------------------------------------------------------------------------------
-- The steps from the last one back to the first
-----------------------------------------------------------------------------------------

theorem goes_activated (reply : Reply) (delay : Delay) (master : Master)
    : Goes master (activated config handle reply delay master) :=
  goes_afterPause goes_succeed _ delay master

theorem goes_activate (delay : Delay) (master : Master)
    : Goes master (activate config handle delay master) :=
  goes_afterOperation .writeByte (master.settles_start .writeByte) goes_activated delay

theorem goes_resetEnabled (reply : Reply) (delay : Delay) (master : Master)
    : Goes master (resetEnabled config handle reply delay master) :=
  goes_afterPause goes_activate _ delay master

theorem goes_enableReset (delay : Delay) (master : Master)
    : Goes master (enableReset config handle delay master) :=
  goes_afterOperation .writeByte (master.settles_start .writeByte) goes_resetEnabled delay

theorem goes_identified {trials : Nat} {again : Delay → Master → Progress}
    (goes : ∀ delay master, Goes master (again delay master)) (reply : Reply) (delay : Delay)
    (master : Master)
    : Goes master (identified config handle trials again reply delay master) := by
  unfold identified
  split
  · exact goes_enableReset delay master
  · split
    · exact goes_fail delay master
    · exact goes_afterPause goes _ delay master

/-- Reading the identity goes on with fewer trials, by induction over them. -/
theorem goes_identify (trials : Nat) (delay : Delay) (master : Master)
    : Goes master (identify config handle trials delay master) := by
  induction trials generalizing delay master with
  | zero => exact goes_fail delay master
  | succ trials ih =>
      exact goes_afterOperation .readByte (master.settles_start .readByte) (goes_identified ih)
        delay

theorem goes_pursue (goal : Goal) (delay : Delay) (master : Master)
    : Goes master (pursue config handle goal delay master) := by
  cases goal with
  | identify trials => exact goes_identify trials delay master
  | enableReset => exact goes_enableReset delay master
  | activate => exact goes_activate delay master
  | finish => exact goes_succeed delay master

theorem goes_answered (goal : Goal) (reply : Reply) (delay : Delay) (master : Master)
    : Goes master (answered config handle goal reply delay master) := by
  cases goal with
  | identify trials => exact goes_identified (goes_identify _) reply delay master
  | enableReset => exact goes_resetEnabled reply delay master
  | activate => exact goes_activated reply delay master
  | finish => exact goes_succeed delay master

/-- A suspended bring-up goes on at the step where it was, by cases on what it waits for. -/
theorem goes_resume {rest : BringUp} {master : Master}
    (sound
      : ∀ claiming, rest.wait = .bus claiming
        → claiming.operation.IsSingle ∧ master.Knows claiming)
    (delay : Delay)
    : Goes master (rest.resume config delay master) := by
  obtain ⟨handle, goal, wait⟩ := rest
  cases wait with
  | bus claiming =>
      obtain ⟨single, known⟩ := sound claiming rfl
      exact goes_afterOperation single (Master.settles_resume single known) (goes_answered goal)
        delay
  | pause slices => exact goes_afterPause (goes_pursue goal) slices delay master

end BringUp

namespace Sensor

/-- A sensor that is not ready is not brought up, and one that is begins with its identity. -/
theorem goes_startBringUp (sensor : Sensor) (table : ParameterTable) (delay : Delay)
    (master : Master)
    : BringUp.Goes master
        ((sensor.startBringUp table delay master).1,
          (sensor.startBringUp table delay master).2.2) := by
  unfold startBringUp
  cases sensor.handle.load with
  | none => exact ⟨.done, by simp⟩
  | some handle =>
      by_cases ready : sensor.state = .registered
      · simp only [ready, if_true]
        exact BringUp.goes_identify _ _ _
      · simp only [ready, if_false]
        exact ⟨.done, by simp⟩

/-- The sensor itself, if a data-ready edge makes it begin a capture. -/
def captured (sensor : Sensor) (master : Master) : List Handle :=
  if sensor.state = .enabled then
    match sensor.handle.load with
    | none => []
    | some handle =>
      let request := sensor.captureRequest handle master.memory
      request.accepted (master.tryTransfer request).1
  else
    []

/-- A data-ready edge is dropped, or it serves one capture into the slot at the cursor. -/
theorem move_dataReady {sensor : Sensor} {master : Master}
    (known
      : ∀ handle, sensor.handle.load = some handle
        → master.slaves.get? handle = some sensor.slave)
    (trials : PerBus (Option Nat))
    : (sensor.dataReady master = master ∧ sensor.captured master = [])
      ∨ ∃ operation,
          Move ⟨master, trials⟩ (.serve (.capture sensor.ring) sensor.slave operation)
            ⟨sensor.dataReady master, trials⟩
          ∧ sensor.captured master = operation.streams := by
  unfold dataReady captured
  split
  · cases place : sensor.handle.load with
    | none => exact .inl ⟨rfl, rfl⟩
    | some handle =>
        have found
            : master.slaves.get?
                (Operation.transfer (sensor.captureRequest handle master.memory)).handle
              = some sensor.slave :=
          known handle place
        simp only [Master.tryTransfer]
        cases resolved : master.resolve (sensor.captureRequest handle master.memory).handle with
        | error cause => exact .inl ⟨rfl, rfl⟩
        | ok slave =>
            obtain rfl := Option.some.inj
              (found.symm.trans (Master.get?_of_resolve resolved).1)
            have long : (sensor.captureRequest handle master.memory).window.length ≠ 0 := by
              simp [captureRequest, captureWindow, SampleRing.captureLength]
            simp only [long, if_false]
            cases accepted
                : master.attempt sensor.slave
                    (.transfer (sensor.captureRequest handle master.memory)) with
            | none => exact .inl ⟨rfl, rfl⟩
            | some outcome =>
                obtain ⟨reply, next⟩ := outcome
                refine .inr ⟨_, .ofAttempt found ?_ accepted, rfl⟩
                intro ring given
                cases given
                exact ⟨_, rfl, rfl, rfl⟩
  · exact .inl ⟨rfl, rfl⟩

end Sensor

end Magnetometer

end TwoWire
