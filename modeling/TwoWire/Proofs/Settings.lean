import TwoWire.Proofs.Registry
import TwoWire.Proofs.SensorAccounts

/-! What stays of a sensor whatever is done with it: the settings it was given, and the handle under
which it was registered, which goes on standing for it. Its reading changes by decoding only.

No rule for clients is assumed.
-/

namespace TwoWire

open Magnetometer

namespace Magnetometer.Sensor

variable {sensor : Sensor}

/-- A sensor changes and keeps what it was given and what it decoded last. -/
structure Retains (sensor after : Sensor) : Prop where
  config : after.config = sensor.config
  ring : after.ring = sensor.ring
  reading : after.reading = sensor.reading

theorem Retains.refl (sensor : Sensor)
    : sensor.Retains sensor :=
  ⟨rfl, rfl, rfl⟩

theorem retains_enable (sensor : Sensor)
    : sensor.Retains sensor.enable.2 := by
  unfold enable
  split <;> exact ⟨rfl, rfl, rfl⟩

theorem retains_disable (sensor : Sensor)
    : sensor.Retains sensor.disable := by
  unfold disable
  split <;> exact ⟨rfl, rfl, rfl⟩

theorem retains_register (sensor : Sensor) (master : Master)
    : sensor.Retains (sensor.register master).2.1 := by
  unfold register
  split
  · cases master.register sensor.slave with
    | mk outcome next => cases outcome <;> exact ⟨rfl, rfl, rfl⟩
  · exact .refl sensor

theorem retains_settle (sensor : Sensor) (outcome : Poll BringUp (Except SensorError Unit))
    : sensor.Retains (sensor.settle outcome) := by
  match outcome with
  | .pending _ | .ready (.ok ()) | .ready (.error _) => exact ⟨rfl, rfl, rfl⟩

theorem retains_startBringUp (sensor : Sensor) (table : ParameterTable) (delay : Delay)
    (master : Master)
    : sensor.Retains (sensor.startBringUp table delay master).2.1 := by
  unfold startBringUp
  cases sensor.handle.load with
  | none => exact .refl sensor
  | some handle =>
      dsimp only
      split
      · obtain ⟨config, ring, reading⟩ := retains_settle
          { sensor with calibration := .load table, state := .probing }
          (BringUp.identify sensor.config handle sensor.config.probeTrials delay master).1
        exact ⟨config, ring, reading⟩
      · exact .refl sensor

/-- Decoding records what it answers and nothing else, by cases on what lets it answer. -/
theorem decode_snd (sensor : Sensor) (master : Master) (temperature : Float32) (now : Nat)
    : (sensor.decode master temperature now).2
      = { sensor with
          reading := (sensor.decode master temperature now).1.or sensor.reading } := by
  unfold decode
  dsimp only
  split
  · split <;> rfl
  · rfl

/-- What is known of a sensor stays right in a table that still knows every slave. -/
theorem Homed.mono {slaves more : SlaveTable} (homed : sensor.Homed slaves)
    (known : ∀ {handle slave}, slaves.get? handle = some slave → more.get? handle = some slave)
    : sensor.Homed more :=
  ⟨homed.fresh, fun handle held => known (homed.known handle held)⟩

/-- A sensor is registered under a handle that stands for it from then on. -/
theorem Homed.register {master : Master} (lawful : master.Lawful)
    (homed : sensor.Homed master.slaves)
    : (sensor.register master).2.1.Homed (sensor.register master).2.2.slaves := by
  unfold Sensor.register
  by_cases new : sensor.state = .uninitialized
  · simp only [new, if_true]
    cases answered : master.register sensor.slave with
    | mk outcome next =>
        have known {handle slave} (found : master.slaves.get? handle = some slave)
            : next.slaves.get? handle = some slave := by
          have kept : (master.register sensor.slave).2.slaves.get? handle = some slave :=
            Master.known_register found
          rwa [answered] at kept
        cases outcome with
        | error cause => exact homed.mono known
        | ok handle =>
            have accepted : (master.register sensor.slave).1 = .ok handle := by rw [answered]
            have proper := lawful.code_ne_vacant accepted
            have admits := Master.register_eq_ok_iff.mp ⟨handle, accepted⟩
            have room : master.slaves.size < master.slaves.capacity :=
              Nat.lt_of_le_of_ne lawful.fits admits.room
            obtain ⟨place, entered, -⟩ := admits.register
            obtain rfl := Except.ok.inj (accepted.symm.trans place)
            rw [answered] at entered
            dsimp only at entered
            refine ⟨fun state => by simp at state, fun other held => ?_⟩
            obtain rfl := Option.some.inj ((HandleCell.load_store_some proper).symm.trans held)
            simp only [SlaveTable.get?, Handle.index_ofIndex room, entered]
            exact List.getElem?_concat_length
  · simp only [new, if_false]
    exact homed

end Magnetometer.Sensor

namespace Bench

/-- What becomes of a sensor by an action: what is asked of it, or the end of a bring-up of it that
is polled.
-/
inductive Alters (bench : Bench) (place : Nat) (sensor : Sensor) : Action → Sensor → Prop
  | register
    : Alters bench place sensor (.sensor place .register) (sensor.register bench.master).2.1
  | bringUp (table : ParameterTable) (schedule : Schedule) (number : Option Nat)
    : Alters bench place sensor (.sensor place (.bringUp table schedule number))
        (sensor.startBringUp table (.new schedule) bench.master).2.1
  | poll {number : Nat} {rest : BringUp} {delay : Delay}
    (waiting : bench.task? number = some (.bringUp place rest delay))
    : Alters bench place sensor (.poll number)
        (sensor.settle (rest.resume sensor.config delay bench.master).1)
  | enable : Alters bench place sensor (.sensor place .enable) sensor.enable.2
  | disable : Alters bench place sensor (.sensor place .disable) sensor.disable
  | decode (temperature : Float32) (now : Nat)
    : Alters bench place sensor (.sensor place (.decode temperature now))
        (sensor.decode bench.master temperature now).2

/-- Only decoding changes the reading on a sensor, by cases on what becomes of it. -/
theorem Alters.retains {bench : Bench} {place : Nat} {sensor after : Sensor} {action : Action}
    (alters : bench.Alters place sensor action after)
    (other : ∀ temperature now, action ≠ .sensor place (.decode temperature now))
    : sensor.Retains after := by
  cases alters with
  | register => exact sensor.retains_register _
  | bringUp => exact sensor.retains_startBringUp _ _ _
  | poll => exact sensor.retains_settle _
  | enable => exact sensor.retains_enable
  | disable => exact sensor.retains_disable
  | decode temperature now => exact absurd rfl (other temperature now)

/-- An action leaves all sensors as they are or alters one of them, by cases on the action. -/
theorem sensors_step (bench : Bench) (action : Action)
    : (bench.step action).2.sensors = bench.sensors
      ∨ ∃ place sensor after,
          bench.sensors[place]? = some sensor
          ∧ bench.Alters place sensor action after
          ∧ (bench.step action).2.sensors = bench.sensors.set place after := by
  cases action with
  | configureAll | register | tryTransfer | drop | complete => exact .inl rfl
  | start | standby => exact .inl (by simp [step])
  | arrange | forget | drain | raise | manual | deliver => exact .inl (by simp [step, drain])
  | poll number =>
      cases polled : bench.task? number with
      | none => exact .inl (by simp [step, polled])
      | some task =>
          cases task with
          | operation | standby => exact .inl (by simp [step, polled, resume, discard])
          | bringUp place rest delay =>
              cases here : bench.sensors[place]? with
              | none => exact .inl (by simp [step, polled, resume, here, discard])
              | some sensor =>
                  refine .inr ⟨place, sensor, _, here, .poll polled, ?_⟩
                  simp [step, polled, resume, here, discard, Sensor.resumeBringUp]
  | advanceRing place =>
      cases here : bench.sensors[place]? with
      | none | some => exact .inl (by simp [step, here])
  | sensor place action =>
      cases here : bench.sensors[place]? with
      | none => exact .inl (by simp [step, here])
      | some sensor =>
          have stepped {after : Sensor}
              (replaced
                : (bench.stepSensor place sensor action).2.sensors
                  = bench.sensors.set place after)
              : (bench.step (.sensor place action)).2.sensors = bench.sensors.set place after := by
            simpa only [step, here] using replaced
          cases action with
          | register =>
              exact .inr ⟨place, sensor, _, here, .register,
                stepped (by simp [stepSensor, setSensor])⟩
          | bringUp table schedule number =>
              exact .inr ⟨place, sensor, _, here, .bringUp table schedule number,
                stepped (by simp [stepSensor])⟩
          | enable => exact .inr ⟨place, sensor, _, here, .enable, stepped rfl⟩
          | disable => exact .inr ⟨place, sensor, _, here, .disable, stepped rfl⟩
          | decode temperature now =>
              exact .inr ⟨place, sensor, _, here, .decode temperature now, stepped rfl⟩
          | dataReady => exact .inl (by simp [step, here, stepSensor])

/-- The sensors have these settings, and the handle of each stands for it. -/
structure Housed (configs : List Config) (bench : Bench) : Prop where
  configs : bench.sensors.map Sensor.config = configs
  homed : ∀ sensor ∈ bench.sensors, sensor.Homed bench.master.slaves

variable {configs : List Config} {bench next : Bench} {action : Action} {index : Nat}
  {sensor : Sensor}

/-- Slaves that are known stay known whatever is done, since entries are only added. -/
theorem Grounded.known_step (grounded : bench.Grounded) (action : Action) {handle : Handle}
    {slave : Slave} (found : bench.master.slaves.get? handle = some slave)
    : (bench.step action).2.master.slaves.get? handle = some slave := by
  rw [(grounded.slaves_step action).1]
  exact (List.getElem?_append_left (List.getElem?_eq_some_iff.mp found).1).trans found

/-- One sensor may be replaced by one with the same settings that knows what its handle is. -/
theorem Housed.replace (housed : bench.Housed configs)
    (here : bench.sensors[index]? = some sensor) (after : Sensor)
    (known
      : ∀ {handle slave},
          bench.master.slaves.get? handle = some slave
          → next.master.slaves.get? handle = some slave)
    (sensors : next.sensors = bench.sensors.set index after)
    (config : after.config = sensor.config) (homed : after.Homed next.master.slaves)
    : next.Housed configs := by
  obtain ⟨inside, rfl⟩ := List.getElem?_eq_some_iff.mp here
  have mapped : index < (bench.sensors.map Sensor.config).length := by simpa using inside
  constructor
  · rw [sensors, List.map_set, config, ← housed.configs, ← List.getElem_map Sensor.config]
    exact List.set_getElem_self mapped
  · intro current member
    rw [sensors] at member
    rcases List.mem_or_eq_of_mem_set member with old | rfl
    · exact (housed.homed current old).mono known
    · exact homed

theorem Housed.same (housed : bench.Housed configs)
    (known
      : ∀ {handle slave},
          bench.master.slaves.get? handle = some slave
          → next.master.slaves.get? handle = some slave)
    (sensors : next.sensors = bench.sensors)
    : next.Housed configs where
  configs := sensors ▸ housed.configs
  homed sensor member := (housed.homed sensor (sensors ▸ member)).mono known

/-- Whatever is done, the settings stay and handles stand for their sensors, by cases on what
becomes of a sensor.
-/
theorem Housed.step (housed : bench.Housed configs) (grounded : bench.Grounded)
    (action : Action)
    : (bench.step action).2.Housed configs := by
  have known {handle slave} (found : bench.master.slaves.get? handle = some slave)
      : (bench.step action).2.master.slaves.get? handle = some slave :=
    grounded.known_step action found
  rcases bench.sensors_step action with same | ⟨place, sensor, after, here, alters, replaced⟩
  · exact housed.same known same
  · have homed := housed.homed sensor (List.mem_of_getElem? here)
    have adjusts (config : after.config = sensor.config) (stays : sensor.Stays after)
        : (bench.step action).2.Housed configs :=
      housed.replace here after known replaced config ((homed.mono known).stays stays)
    cases alters with
    | register =>
        refine housed.replace here _ known replaced (sensor.retains_register _).config ?_
        simp only [Bench.step, here, stepSensor]
        exact homed.register grounded.lawful
    | bringUp table schedule number =>
        exact adjusts (sensor.retains_startBringUp _ _ _).config
          (sensor.stays_startBringUp _ _ _)
    | poll =>
        exact adjusts (sensor.retains_settle _).config (sensor.stays_settle _)
    | enable => exact adjusts sensor.retains_enable.config sensor.stays_enable
    | disable => exact adjusts sensor.retains_disable.config sensor.stays_disable
    | decode temperature now =>
        exact adjusts (by rw [Sensor.decode_snd]) (sensor.stays_decode _ _ _)

theorem Housed.run (housed : bench.Housed configs) (grounded : bench.Grounded)
    (actions : List Action)
    : (bench.run actions).2.Housed configs := by
  induction actions generalizing bench with
  | nil => exact housed
  | cons action rest ih => exact ih (housed.step grounded action) (grounded.step action)

theorem housed_assemble (capacity : Fin 255) (paces : PerBus (Option Pace))
    (buffers : List (List UInt8)) (sensors : List (Config × Nat))
    : (assemble capacity paces buffers sensors).Housed (sensors.map Prod.fst) where
  configs := by simp [assemble, Bench.new, Sensor.new]
  homed sensor member := by
    obtain ⟨⟨config, ring⟩, -, rfl⟩ := List.mem_map.mp member
    exact ⟨fun _ => rfl, fun _ held => absurd held (by simp [Sensor.new])⟩

end Bench

end TwoWire
