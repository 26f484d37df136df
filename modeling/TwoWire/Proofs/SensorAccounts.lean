import TwoWire.Proofs.Accounts

/-! What is done with a sensor, accounted for by events.

A sensor keeps its handle for good, and it is registered at most once, so no two handles ever
stand for the same sensor.
-/

namespace TwoWire

open Scene
open Magnetometer

namespace Magnetometer.Sensor

/-- A sensor changes without becoming another slave, losing its handle or forgetting that it was
registered.
-/
structure Stays (sensor after : Sensor) : Prop where
  slave : after.slave = sensor.slave
  handle : after.handle = sensor.handle
  stage : after.state = .uninitialized → sensor.state = .uninitialized

variable {sensor middle after : Sensor}

theorem Stays.refl (sensor : Sensor)
    : sensor.Stays sensor :=
  ⟨rfl, rfl, id⟩

theorem Stays.trans (head : sensor.Stays middle) (tail : middle.Stays after)
    : sensor.Stays after where
  slave := tail.slave.trans head.slave
  handle := tail.handle.trans head.handle
  stage := head.stage ∘ tail.stage

theorem Homed.stays {slaves : SlaveTable} (homed : sensor.Homed slaves)
    (stays : sensor.Stays after)
    : after.Homed slaves where
  fresh new := by
    rw [stays.handle]
    exact homed.fresh (stays.stage new)
  known place held := by
    rw [stays.handle] at held
    rw [stays.slave]
    exact homed.known place held

theorem stays_enable (sensor : Sensor)
    : sensor.Stays sensor.enable.2 := by
  unfold enable
  split
  · exact ⟨rfl, rfl, by simp⟩
  · exact .refl sensor

theorem stays_disable (sensor : Sensor)
    : sensor.Stays sensor.disable := by
  unfold disable
  split
  · exact ⟨rfl, rfl, by simp⟩
  · exact .refl sensor

/-- Decoding records at most a reading, by cases on what lets it do so. -/
theorem stays_decode (sensor : Sensor) (master : Master) (temperature : Float32) (now : Nat)
    : sensor.Stays (sensor.decode master temperature now).2 := by
  unfold decode
  dsimp only
  split
  · split
    · exact .refl sensor
    · exact ⟨rfl, rfl, id⟩
  · exact .refl sensor

/-- A bring-up ends in a later stage or leaves the sensor as it is. -/
theorem stays_settle (sensor : Sensor) (outcome : Poll BringUp (Except SensorError Unit))
    : sensor.Stays (sensor.settle outcome) := by
  match outcome with
  | .pending rest => exact .refl sensor
  | .ready (.ok ()) => exact ⟨rfl, rfl, by simp [settle]⟩
  | .ready (.error cause) => exact ⟨rfl, rfl, by simp [settle]⟩

/-- A bring-up that is begun leaves the sensor as it is, or probing and then settled. -/
theorem stays_startBringUp (sensor : Sensor) (table : ParameterTable) (delay : Delay)
    (master : Master)
    : sensor.Stays (sensor.startBringUp table delay master).2.1 := by
  unfold startBringUp
  cases sensor.handle.load with
  | none => exact .refl sensor
  | some handle =>
      by_cases ready : sensor.state = .registered
      · simp only [ready, if_true]
        have probing
            : sensor.Stays { sensor with calibration := .load table, state := .probing } :=
          ⟨rfl, rfl, by simp⟩
        exact probing.trans (stays_settle _ _)
      · simp only [ready, if_false]
        exact .refl sensor

end Magnetometer.Sensor

namespace Bench

variable {rules : ClientRules} {trials left : PerBus (Option Nat)} {bench : Bench}
  {action : Action} {index : Nat} {sensor after : Sensor}

theorem Tracks.homed (tracks : bench.Tracks rules trials)
    (here : bench.sensors[index]? = some sensor)
    : sensor.Homed bench.master.slaves :=
  tracks.sensors sensor (List.mem_of_getElem? here)

/-- Replacing a sensor by one that is the same slave leaves all slaves as they are. -/
theorem slaves_setSensor (here : bench.sensors[index]? = some sensor)
    (same : after.slave = sensor.slave)
    : (bench.setSensor index after).sensors.map Sensor.slave
      = bench.sensors.map Sensor.slave := by
  obtain ⟨inside, rfl⟩ := List.getElem?_eq_some_iff.mp here
  have mapped : index < (bench.sensors.map Sensor.slave).length := by simpa using inside
  rw [setSensor, List.map_set, same, ← List.getElem_map Sensor.slave]
  exact List.set_getElem_self mapped

/-- A sensor that changes by itself causes no event. -/
theorem Tracks.adjusts (tracks : bench.Tracks rules trials)
    (here : bench.sensors[index]? = some sensor) (stays : sensor.Stays after) {result : Result}
    : bench.Accounts rules trials action (.ofResult result, bench.setSensor index after) [] []
        trials where
  moves := .nil
  tracks :=
    tracks.setSensor here .nil (by simp) stays.slave (fun _ held => stays.handle ▸ held)
      ((tracks.homed here).stays stays) (fun _ _ found => .inl found)
  told := rfl
  streams := rfl
  causes := by simp
  sensors := slaves_setSensor here stays.slave

/-- A sensor is registered under a handle of its own, or it stays as it is. -/
theorem Tracks.registersSensor (tracks : bench.Tracks rules trials)
    (here : bench.sensors[index]? = some sensor)
    : ∃ events,
        bench.Accounts rules trials (.sensor index .register)
          (bench.stepSensor index sensor .register) [] events trials := by
  have homed := tracks.homed here
  simp only [stepSensor, Sensor.register]
  by_cases new : sensor.state = .uninitialized
  · simp only [new, if_true]
    obtain ⟨events, registers⟩ :=
      registers_register bench.master trials sensor.slave tracks.coherent.fits
    generalize bench.master.register sensor.slave = outcome at registers ⊢
    obtain ⟨answer, master⟩ := outcome
    have moves := registers.moves
    have asked : bench.registrant (.sensor index .register) = some sensor.slave := by
      simp [registrant, here, new]
    have calm (event : Scene.Event) (member : event ∈ events)
        : event.CausedBy rules bench (.sensor index .register)
          ∧ ∀ bus, ¬ event.ProbesOn bus :=
      registers.calm asked member
    have apart (bus : BusId) (event : Scene.Event) (member : event ∈ events)
        : ¬ event.ProbesOn bus :=
      (calm event member).2 bus
    cases answer with
    | error cause =>
        refine ⟨events, moves, ?_, registers.silent, registers.streams, ?_,
          slaves_setSensor here rfl⟩
        · refine tracks.setSensor here moves apart rfl (fun _ held => held) ?_ ?_
          · exact ⟨homed.fresh, fun place held => moves.known (homed.known place held)⟩
          · intro place known found
            rcases moves.known_or_entered found with old | entered
            · exact .inl old
            · rcases registers.own _ entered with ⟨other, -⟩ | ⟨-, accepted⟩
              · simp at other
              · simp at accepted
        · exact fun event member => (calm event member).1
    | ok handle =>
        obtain ⟨found, entries⟩ := registers.accepts handle rfl
        have coherent := tracks.coherent.moves moves
        have place := HandleCell.load_store_some (coherent.fits.code_ne_vacant found)
        refine ⟨events, moves, ?_, registers.silent, registers.streams, ?_,
          slaves_setSensor here rfl⟩
        · refine tracks.setSensor here moves apart rfl ?_ ⟨by simp, ?_⟩ ?_
          · intro old held
            simp [homed.fresh new] at held
          · intro known held
            obtain rfl := Option.some.inj (place.symm.trans held)
            exact found
          · intro known slave there
            rcases entries known slave there with old | ⟨rfl, rfl⟩
            · exact .inl old
            · exact .inr ⟨place, rfl⟩
        · exact fun event member => (calm event member).1
  · simp only [new, if_false]
    exact ⟨_, tracks.adjusts here (.refl sensor)⟩

/-- A data-ready edge is accounted for by the capture that it serves, if it serves one. -/
theorem Tracks.captures (tracks : bench.Tracks rules trials)
    (here : bench.sensors[index]? = some sensor)
    : ∃ events,
        bench.Accounts rules trials action (bench.stepSensor index sensor .dataReady)
          (sensor.captured bench.master) events trials
        ∧ ∀ event ∈ events, ∃ operation,
            event = .serve (.capture sensor.ring) sensor.slave operation := by
  simp only [stepSensor]
  rcases Sensor.move_dataReady (tracks.homed here).known trials with
    ⟨same, dropped⟩ | ⟨operation, move, captured⟩
  · rw [same, dropped]
    exact ⟨_, tracks.unchanged rfl, by simp⟩
  · rw [captured]
    refine ⟨_, tracks.accounts (.single move) rfl (List.append_nil _) ?_, by simp⟩
    intro event member
    obtain rfl := List.mem_singleton.mp member
    exact ⟨⟨sensor, List.mem_of_getElem? here, rfl, rfl⟩, fun _ probes => probes, by simp⟩

end Bench

end TwoWire
