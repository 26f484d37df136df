import TwoWire.Proofs.Grounds

/-! The life of a sensor over whole runs.

A sensor is brought up at most once. The milestones of its bring-ups, as they are answered, decide
its stage, its calibration and its data-ready line, however the bring-ups are interleaved with each
other and with anything else.
-/

namespace TwoWire

open Magnetometer

-----------------------------------------------------------------------------------------
-- Why bring-ups fail
-----------------------------------------------------------------------------------------

namespace Magnetometer.BringUp

/-- A bring-up that is under way fails only if the master refuses it something or the identity never
matches, so it is never told that it should not have begun.
-/
def FailsDuly (progress : Progress) : Prop :=
  ∀ cause, progress.1 = .ready (.error cause)
    → cause ≠ .notRegistered ∧ cause ≠ .invalidState

variable {config : Config} {handle : Handle} {goal : Goal}

theorem failsDuly_succeed (delay : Delay) (master : Master)
    : FailsDuly (succeed delay master) := by
  simp [FailsDuly, succeed]

theorem failsDuly_fail (delay : Delay) (master : Master)
    : FailsDuly (fail delay master) := by
  rintro _ ⟨⟩
  simp

theorem failsDuly_afterPause {next : Delay → Master → Progress}
    (duly : ∀ delay master, FailsDuly (next delay master)) (slices : List Nat) (delay : Delay)
    (master : Master)
    : FailsDuly (afterPause handle goal next slices delay master) := by
  unfold afterPause
  cases delay.pause slices with
  | mk outcome spent =>
      cases outcome with
      | ready => exact duly spent master
      | pending rest => simp [FailsDuly]

theorem failsDuly_afterOperation {next : Reply → Delay → Master → Progress}
    (duly : ∀ reply delay master, FailsDuly (next reply delay master)) (delay : Delay)
    (outcome : Poll Claiming (Except MasterError Reply) × Master)
    : FailsDuly (afterOperation handle goal next delay outcome) := by
  obtain ⟨outcome, master⟩ := outcome
  match outcome with
  | .pending claiming => simp [FailsDuly, afterOperation]
  | .ready (.error cause) =>
      rintro _ ⟨⟩
      simp
  | .ready (.ok reply) => exact duly reply delay master

theorem failsDuly_activated (reply : Reply) (delay : Delay) (master : Master)
    : FailsDuly (activated config handle reply delay master) :=
  failsDuly_afterPause failsDuly_succeed _ delay master

theorem failsDuly_activate (delay : Delay) (master : Master)
    : FailsDuly (activate config handle delay master) :=
  failsDuly_afterOperation failsDuly_activated delay _

theorem failsDuly_resetEnabled (reply : Reply) (delay : Delay) (master : Master)
    : FailsDuly (resetEnabled config handle reply delay master) :=
  failsDuly_afterPause failsDuly_activate _ delay master

theorem failsDuly_enableReset (delay : Delay) (master : Master)
    : FailsDuly (enableReset config handle delay master) :=
  failsDuly_afterOperation failsDuly_resetEnabled delay _

theorem failsDuly_identified {trials : Nat} {again : Delay → Master → Progress}
    (duly : ∀ delay master, FailsDuly (again delay master)) (reply : Reply) (delay : Delay)
    (master : Master)
    : FailsDuly (identified config handle trials again reply delay master) := by
  unfold identified
  split
  · exact failsDuly_enableReset delay master
  · split
    · exact failsDuly_fail delay master
    · exact failsDuly_afterPause duly _ delay master

/-- Reading the identity goes on with fewer trials, by induction over them. -/
theorem failsDuly_identify (trials : Nat) (delay : Delay) (master : Master)
    : FailsDuly (identify config handle trials delay master) := by
  induction trials generalizing delay master with
  | zero => exact failsDuly_fail delay master
  | succ trials ih => exact failsDuly_afterOperation (failsDuly_identified ih) delay _

end Magnetometer.BringUp

-----------------------------------------------------------------------------------------
-- Stages
-----------------------------------------------------------------------------------------

/-- A step in the bring-ups of a sensor. -/
inductive Milestone where
  /-- A bring-up passed its checks and loaded this table. -/
  | begun (table : ParameterTable)
  | succeeded
  | failed (cause : SensorError)
deriving DecidableEq

namespace Milestone

def isSuccess : Milestone → Bool
  | succeeded => true
  | _ => false

def table? : Milestone → Option ParameterTable
  | begun table => some table
  | _ => none

/-- How a bring-up ended, if its poll was answered like this. -/
def ofResult : Result → List Milestone
  | .done => [succeeded]
  | .sensorError cause => [failed cause]
  | _ => []

end Milestone

/-- A bring-up that is answered like this passed its checks. -/
def Result.isUnderWay : Result → Bool
  | .sensorError .notRegistered | .sensorError .invalidState | .noSensor => false
  | _ => true

namespace Magnetometer.Sensor

/-- The stages of a sensor by the milestones of its bring-ups, with the number of bring-ups that
wait. A handle is held from the registration on.
-/
inductive Life (sensor : Sensor) (waiting : Nat) : List Milestone → Prop
  | new (state : sensor.state = .uninitialized) (held : sensor.handle.load = none)
    (raw : sensor.configured = false) (line : sensor.lineEnables = 0)
    (model : sensor.calibration = .identity) (none : waiting = 0)
    : Life sensor waiting []
  | registered (state : sensor.state = .registered) (held : sensor.handle.load.isSome = true)
    (raw : sensor.configured = false) (line : sensor.lineEnables = 0)
    (model : sensor.calibration = .identity) (none : waiting = 0)
    : Life sensor waiting []
  /-- The bring-up waits, or it was dropped while it did. -/
  | probing {table} (state : sensor.state = .probing) (held : sensor.handle.load.isSome = true)
    (raw : sensor.configured = false) (line : sensor.lineEnables = 0)
    (model : sensor.calibration = .load table) (few : waiting ≤ 1)
    : Life sensor waiting [.begun table]
  | ready {table}
    (state
      : sensor.state = .configured ∨ sensor.state = .enabled ∨ sensor.state = .disabled)
    (held : sensor.handle.load.isSome = true) (configured : sensor.configured = true)
    (line : sensor.lineEnables = 1) (model : sensor.calibration = .load table)
    (none : waiting = 0)
    : Life sensor waiting [.begun table, .succeeded]
  | failed {table cause} (state : sensor.state = .disabled)
    (held : sensor.handle.load.isSome = true) (raw : sensor.configured = false)
    (line : sensor.lineEnables = 0) (model : sensor.calibration = .load table)
    (none : waiting = 0)
    : Life sensor waiting [.begun table, .failed cause]

variable {sensor : Sensor} {waiting fewer : Nat} {history : List Milestone}

/-- Bring-ups that wait may be dropped. -/
theorem Life.mono (life : sensor.Life waiting history) (less : fewer ≤ waiting)
    : sensor.Life fewer history := by
  cases life with
  | new state held raw line model none => exact .new state held raw line model (by omega)
  | registered state held raw line model none =>
      exact .registered state held raw line model (by omega)
  | probing state held raw line model few => exact .probing state held raw line model (by omega)
  | ready state held configured line model none =>
      exact .ready state held configured line model (by omega)
  | failed state held raw line model none => exact .failed state held raw line model (by omega)

/-- A configured sensor is switched on and off. -/
theorem Life.switch (life : sensor.Life waiting history) (configured : sensor.configured = true)
    {state : State} (working : state = .enabled ∨ state = .disabled)
    : { sensor with state }.Life waiting history := by
  cases life with
  | ready _ held configured line model none =>
      exact .ready (.inr working) held configured line model none
  | new _ _ raw | registered _ _ raw | probing _ _ raw | failed _ _ raw =>
      simp [raw] at configured

theorem Life.enable (life : sensor.Life waiting history)
    : sensor.enable.2.Life waiting history := by
  unfold Sensor.enable
  split
  · rename_i configured
    exact life.switch configured (.inl rfl)
  · exact life

theorem Life.disable (life : sensor.Life waiting history)
    : sensor.disable.Life waiting history := by
  unfold Sensor.disable
  split
  · rename_i configured
    exact life.switch configured (.inr rfl)
  · exact life

/-- A reading that is recorded has nothing to do with the stage, by cases on the stage. -/
theorem Life.decode (life : sensor.Life waiting history) (master : Master)
    (temperature : Float32) (now : Nat)
    : (sensor.decode master temperature now).2.Life waiting history := by
  have records (reading : Option Reading) : { sensor with reading }.Life waiting history := by
    cases life with
    | new state held raw line model none => exact .new state held raw line model none
    | registered state held raw line model none =>
        exact .registered state held raw line model none
    | probing state held raw line model few => exact .probing state held raw line model few
    | ready state held configured line model none =>
        exact .ready state held configured line model none
    | failed state held raw line model none => exact .failed state held raw line model none
  unfold Sensor.decode
  dsimp only
  split
  · split
    · exact life
    · exact records _
  · exact life

/-- What a bring-up that ended or waits is answered. -/
def outcomeResult : Poll BringUp (Except SensorError Unit) → Result
  | .pending _ => .pending
  | .ready outcome => .ofSensor (fun _ => .done) outcome

/-- A sensor that probes goes on doing so, or its bring-up ends in one of two ways. -/
theorem Life.settle {table : ParameterTable} (life : sensor.Life 0 [.begun table])
    {outcome : Poll BringUp (Except SensorError Unit)}
    (few : waiting ≤ 1) (none : ∀ answer, outcome = .ready answer → waiting = 0)
    : (sensor.settle outcome).Life waiting
        (.begun table :: Milestone.ofResult (outcomeResult outcome)) := by
  cases life with
  | probing state held raw line model =>
      match outcome with
      | .pending rest => exact .probing state held raw line model few
      | .ready (.ok ()) =>
          exact .ready (.inl rfl) held rfl (congrArg (· + 1) line) model (none _ rfl)
      | .ready (.error cause) => exact .failed rfl held raw line model (none _ rfl)

/-- A new sensor may be registered, under a handle that its cell can hold. -/
theorem Life.register (life : sensor.Life waiting history) {master : Master}
    (lawful : master.Lawful)
    : (sensor.register master).2.1.Life waiting history := by
  unfold Sensor.register
  by_cases new : sensor.state = .uninitialized
  · simp only [new, if_true]
    cases answered : master.register sensor.slave with
    | mk outcome next =>
        cases outcome with
        | error cause => exact life
        | ok handle =>
            have proper := lawful.code_ne_vacant (congrArg Prod.fst answered)
            cases life with
            | new _ _ raw line model none =>
                refine .registered rfl ?_ raw line model none
                exact Option.isSome_of_eq_some (HandleCell.load_store_some proper)
            | registered state | probing state | failed state => simp [state] at new
            | ready state => simp [new] at state
  · simp only [new, if_false]
    exact life

end Magnetometer.Sensor

-----------------------------------------------------------------------------------------
-- Actions
-----------------------------------------------------------------------------------------

/-- The task is a bring-up of a sensor. -/
def Task.pursues (index : Nat) : Task → Bool
  | .bringUp place _ _ => place = index
  | .operation _ | .standby .. => false

namespace Bench

/-- How many bring-ups of a sensor wait. -/
def pursuits (index : Nat) (bench : Bench) : Nat :=
  bench.tasks.countP fun entry => entry.2.pursues index

/-- What an action adds to the milestones of a sensor, as it is answered: a first poll of a bring-up
begins one unless it is refused, and a poll that does not wait ends one.
-/
def milestones (index : Nat) (bench : Bench) (action : Action) : List Milestone :=
  match action with
  | .sensor place (.bringUp table _ _) =>
    if place = index ∧ (bench.step action).1.result.isUnderWay then
      .begun table :: Milestone.ofResult (bench.step action).1.result
    else
      []
  | .poll number =>
    match bench.task? number with
    | some (.bringUp place _ _) =>
      if place = index then Milestone.ofResult (bench.step action).1.result else []
    | _ => []
  | _ => []

/-- The milestones of a sensor in a run, in their order. -/
def history (index : Nat) : Bench → List Action → List Milestone
  | _, [] => []
  | bench, action :: rest =>
    bench.milestones index action ++ history index (bench.step action).2 rest

/-- A sensor is in the stage to which its milestones have led. -/
def Lives (index : Nat) (bench : Bench) (history : List Milestone) : Prop :=
  ∃ sensor,
    bench.sensors[index]? = some sensor ∧ sensor.Life (bench.pursuits index) history

variable {bench next : Bench} {index : Nat} {sensor : Sensor} {history : List Milestone}
  {task : Task} {action : Action}

theorem pursuits_discard_le (bench : Bench) (number : Nat)
    : (bench.discard number).pursuits index ≤ bench.pursuits index :=
  List.filter_sublist.countP_le

theorem pursuits_vacate_le (bench : Bench) (number : Option Nat)
    : (bench.vacate number).pursuits index ≤ bench.pursuits index := by
  cases number with
  | none => exact Nat.le_refl _
  | some number => exact bench.pursuits_discard_le number

/-- A bring-up that is taken out does not count any more. -/
theorem pursuits_discard_lt {number : Nat} (waiting : bench.task? number = some task)
    (pursues : task.pursues index = true)
    : (bench.discard number).pursuits index < bench.pursuits index := by
  obtain ⟨before, after, split, -⟩ := List.lookup_eq_some_iff.mp waiting
  simp only [pursuits, discard, split, List.filter_append, List.countP_append]
  have first : (before.filter fun entry => entry.1 != number).countP _ ≤ before.countP _ :=
    List.filter_sublist.countP_le (p := fun entry => entry.2.pursues index)
  have last : (after.filter fun entry => entry.1 != number).countP _ ≤ after.countP _ :=
    List.filter_sublist.countP_le (p := fun entry => entry.2.pursues index)
  simp [pursues]
  omega

theorem pursuits_keep_of_not (bench : Bench) {task : Task} (idle : task.pursues index = false)
    (number : Option Nat)
    : (bench.keep task number).pursuits index = bench.pursuits index := by
  cases number with
  | none => rfl
  | some number => simp [keep, pursuits, idle]

theorem pursuits_keep_le (bench : Bench) (task : Task) (number : Option Nat)
    : (bench.keep task number).pursuits index ≤ bench.pursuits index + 1 := by
  cases number with
  | none => exact Nat.le_succ _
  | some number =>
      simp only [keep, pursuits, List.countP_cons]
      split <;> omega

theorem pursuits_settleOperation (bench : Bench) (number : Option Nat)
    (progress : Poll Claiming (Except MasterError Reply) × Master)
    : (bench.settleOperation number progress).2.pursuits index = bench.pursuits index := by
  obtain ⟨outcome, master⟩ := progress
  cases outcome with
  | ready => rfl
  | pending rest => exact { bench with master }.pursuits_keep_of_not rfl number

theorem pursuits_settleStandby (bench : Bench) (number : Option Nat)
    (progress : Poll Standby (Except MasterError Unit) × Delay × Master)
    : (bench.settleStandby number progress).2.pursuits index = bench.pursuits index := by
  obtain ⟨outcome, delay, master⟩ := progress
  cases outcome with
  | ready => rfl
  | pending rest => exact { bench with master }.pursuits_keep_of_not rfl number

/-- A bring-up of another sensor does not count. -/
theorem pursuits_settleBringUp_of_ne (bench : Bench) {place : Nat} (other : place ≠ index)
    (number : Option Nat)
    (progress : Poll BringUp (Except SensorError Unit) × Sensor × Delay × Master)
    : (bench.settleBringUp place number progress).2.pursuits index = bench.pursuits index := by
  obtain ⟨outcome, after, delay, master⟩ := progress
  cases outcome with
  | ready => rfl
  | pending rest =>
      let settled := { bench with master, sensors := bench.sensors.set place after }
      exact settled.pursuits_keep_of_not (by simpa [Task.pursues] using other) number

/-- A sensor that probes and for which no other bring-up waits is settled with its milestones. -/
theorem lives_settleBringUp (bench : Bench) {table : ParameterTable}
    (inside : index < bench.sensors.length)
    (alone : bench.pursuits index = 0) (life : sensor.Life 0 [.begun table])
    (outcome : Poll BringUp (Except SensorError Unit)) (delay : Delay) (master : Master)
    (number : Option Nat)
    : let settled :=
        bench.settleBringUp index number (outcome, sensor.settle outcome, delay, master)
      settled.1.result = Sensor.outcomeResult outcome
      ∧ settled.2.Lives index (.begun table :: Milestone.ofResult settled.1.result) := by
  have answered
      : (bench.settleBringUp index number
          (outcome, sensor.settle outcome, delay, master)).1.result
        = Sensor.outcomeResult outcome := by
    cases outcome <;> rfl
  have there
      : (bench.settleBringUp index number
          (outcome, sensor.settle outcome, delay, master)).2.sensors[index]?
        = some (sensor.settle outcome) := by
    rw [sensors_settleBringUp]
    exact List.getElem?_set_self inside
  refine ⟨answered, sensor.settle outcome, there, ?_⟩
  rw [answered]
  refine life.settle ?_ ?_
  · cases outcome with
    | ready answer => exact Nat.le_succ_of_le (Nat.le_of_eq alone)
    | pending rest =>
        let settled := { bench with master, sensors := bench.sensors.set index sensor }
        have kept
            : (settled.keep (.bringUp index rest delay) number).pursuits index
              ≤ settled.pursuits index + 1 :=
          settled.pursuits_keep_le _ number
        rw [show settled.pursuits index = 0 from alone] at kept
        exact kept
  · rintro answer rfl
    exact alone

/-- A sensor lives on if it stays as it is and no bring-up of it is added. -/
theorem Lives.calm (lives : bench.Lives index history)
    (quiet : bench.milestones index action = [])
    (same : (bench.step action).2.sensors[index]? = bench.sensors[index]?)
    (fewer : (bench.step action).2.pursuits index ≤ bench.pursuits index)
    : (bench.step action).2.Lives index (history ++ bench.milestones index action) := by
  obtain ⟨sensor, here, life⟩ := lives
  rw [quiet, List.append_nil]
  exact ⟨sensor, same.trans here, life.mono fewer⟩

/-- A bring-up that is polled goes on for the sensor that probes; only such a sensor has one that
waits. Other tasks do nothing to a sensor.
-/
theorem Lives.poll (lives : bench.Lives index history) (number : Nat)
    : (bench.step (.poll number)).2.Lives index
        (history ++ bench.milestones index (.poll number)) := by
  cases polled : bench.task? number with
  | none =>
      refine lives.calm ?_ ?_ ?_
      · simp [milestones, polled]
      · simp [step, polled]
      · simp [step, polled]
  | some task =>
      have discarded : (bench.discard number).pursuits index ≤ bench.pursuits index :=
        bench.pursuits_discard_le number
      cases task with
      | operation rest =>
          refine lives.calm ?_ ?_ ?_
          · simp [milestones, polled]
          · simp [step, polled, resume, discard]
          · simpa [step, polled, resume, pursuits_settleOperation] using discarded
      | standby rest delay =>
          refine lives.calm ?_ ?_ ?_
          · simp [milestones, polled]
          · simp [step, polled, resume, discard]
          · simpa [step, polled, resume, pursuits_settleStandby] using discarded
      | bringUp place rest delay =>
          by_cases own : place = index
          · subst own
            obtain ⟨sensor, here, life⟩ := lives
            have fewer : (bench.discard number).pursuits place < bench.pursuits place :=
              pursuits_discard_lt polled (by simp [Task.pursues])
            cases life with
            | @probing table state held raw line model few =>
                have alone : (bench.discard number).pursuits place = 0 := by omega
                have inside := (List.getElem?_eq_some_iff.mp here).1
                have there : (bench.discard number).sensors[place]? = some sensor := here
                simp only [milestones, polled, if_true, step, resume, there]
                exact ((bench.discard number).lives_settleBringUp inside alone
                  (.probing state held raw line model (Nat.zero_le 1)) _ _ _ _).2
            | new _ _ _ _ _ none | registered _ _ _ _ _ none | ready _ _ _ _ _ none
            | failed _ _ _ _ _ none => omega
          · refine lives.calm ?_ ?_ ?_
            · simp [milestones, polled, own]
            · simp only [step, polled, resume]
              cases (bench.discard number).sensors[place]? with
              | none => rfl
              | some sensor => simp [own, discard]
            · simp only [step, polled, resume]
              cases (bench.discard number).sensors[place]? with
              | none => exact discarded
              | some sensor =>
                  rw [pursuits_settleBringUp_of_ne _ own]
                  exact discarded

/-- The first poll of a bring-up begins one for a sensor that was registered and nothing else; any
other sensor refuses it.
-/
theorem Lives.bringUp (lives : bench.Lives index history) (table : ParameterTable)
    (schedule : Schedule) (number : Option Nat)
    : (bench.step (.sensor index (.bringUp table schedule number))).2.Lives index
        (history ++ bench.milestones index (.sensor index (.bringUp table schedule number))) := by
  obtain ⟨sensor, here, life⟩ := id lives
  have vacated : (bench.vacate number).pursuits index ≤ bench.pursuits index :=
    bench.pursuits_vacate_le number
  have there : (bench.vacate number).sensors[index]? = some sensor := by
    rw [vacate_sensors]
    exact here
  have refused {cause : SensorError}
      (begun
        : sensor.startBringUp table (.new schedule) bench.master
          = (.ready (.error cause), sensor, .new schedule, bench.master))
      (early : Result.isUnderWay (.sensorError cause) = false)
      : (bench.step (.sensor index (.bringUp table schedule number))).2.Lives index
          (history ++ bench.milestones index (.sensor index (.bringUp table schedule number))) := by
    have settled
        : bench.step (.sensor index (.bringUp table schedule number))
          = (bench.vacate number).settleBringUp index number
              (.ready (.error cause), sensor, .new schedule, bench.master) := by
      simp only [step, here, stepSensor, begun]
    refine lives.calm ?_ ?_ ?_
    · simp only [milestones, settled, settleBringUp, Result.ofSensor, early]
      simp
    · rw [settled, sensors_settleBringUp, here]
      exact List.getElem?_set_self (List.getElem?_eq_some_iff.mp there).1
    · rw [settled]
      exact vacated
  cases held : sensor.handle.load with
  | none =>
      have begun
          : sensor.startBringUp table (.new schedule) bench.master
            = (.ready (.error .notRegistered), sensor, .new schedule, bench.master) := by
        simp only [Sensor.startBringUp, held]
      exact refused begun rfl
  | some handle =>
      by_cases ready : sensor.state = .registered
      · cases life with
        | registered _ occupied raw line model alone =>
            have duly : BringUp.FailsDuly
                (BringUp.identify sensor.config handle sensor.config.probeTrials (.new schedule)
                  bench.master) :=
              BringUp.failsDuly_identify _ _ _
            simp only [milestones, step, here, stepSensor, Sensor.startBringUp, held, ready,
              if_true, true_and]
            generalize BringUp.identify sensor.config handle sensor.config.probeTrials
              (.new schedule) bench.master = progress at duly ⊢
            obtain ⟨outcome, spent, next⟩ := progress
            have underWay : (Sensor.outcomeResult outcome).isUnderWay = true := by
              cases outcome with
              | pending rest => rfl
              | ready answer =>
                  cases answer with
                  | ok => rfl
                  | error cause =>
                      obtain ⟨known, new⟩ := duly cause rfl
                      cases cause <;> first | rfl | contradiction
            have probing
                : { sensor with calibration := .load table, state := .probing }.Life 0
                    [.begun table] :=
              .probing rfl occupied raw line rfl (Nat.zero_le 1)
            obtain ⟨answered, lives⟩ := (bench.vacate number).lives_settleBringUp
              (List.getElem?_eq_some_iff.mp there).1 (by omega) probing outcome spent next number
            rw [answered, underWay, if_pos rfl, ← answered]
            exact lives
        | new state | probing state | failed state => simp [state] at ready
        | ready state => simp [ready] at state
      · have begun
            : sensor.startBringUp table (.new schedule) bench.master
              = (.ready (.error .invalidState), sensor, .new schedule, bench.master) := by
          simp only [Sensor.startBringUp, held, ready, if_false]
        exact refused begun rfl

/-- What is done with another sensor does nothing to this one. -/
theorem Lives.elsewhere (lives : bench.Lives index history) {place : Nat}
    (other : place ≠ index) (action : SensorAction)
    : (bench.step (.sensor place action)).2.Lives index
        (history ++ bench.milestones index (.sensor place action)) := by
  have quiet : bench.milestones index (.sensor place action) = [] := by
    cases action <;> simp [milestones, other]
  cases here : bench.sensors[place]? with
  | none => refine lives.calm quiet ?_ ?_ <;> simp [step, here]
  | some sensor =>
      cases action with
      | bringUp table schedule number =>
          refine lives.calm quiet ?_ ?_
          · simp [step, here, stepSensor, other]
          · simp only [step, here, stepSensor, pursuits_settleBringUp_of_ne _ other]
            exact bench.pursuits_vacate_le number
      | register | enable | disable | dataReady | decode =>
          refine lives.calm quiet ?_ ?_ <;>
            simp [step, here, stepSensor, setSensor, pursuits, other]

/-- Whatever is done leads a sensor on by the milestones that are answered, by cases on the action.
-/
theorem Grounded.lives (grounded : bench.Grounded) (lives : bench.Lives index history)
    (action : Action)
    : (bench.step action).2.Lives index (history ++ bench.milestones index action) := by
  cases action with
  | configureAll | register | tryTransfer | complete => exact lives.calm rfl rfl (Nat.le_refl _)
  | start operation number =>
      refine lives.calm rfl ?_ ?_
      · simp [Bench.step]
      · simp only [Bench.step, pursuits_settleOperation]
        exact bench.pursuits_vacate_le number
  | standby handle schedule number =>
      refine lives.calm rfl ?_ ?_
      · simp [Bench.step]
      · simp only [Bench.step, pursuits_settleStandby]
        exact bench.pursuits_vacate_le number
  | poll number => exact lives.poll number
  | drop number => exact lives.calm rfl rfl (bench.pursuits_discard_le number)
  | advanceRing place =>
      refine lives.calm rfl ?_ ?_ <;>
        simp only [Bench.step] <;>
        cases bench.sensors[place]? <;>
        simp [pursuits]
  | arrange id | forget id | drain id | raise id | manual id =>
      refine lives.calm rfl ?_ ?_
      · simp [Bench.step, drain]
      · simp [Bench.step, drain, pursuits]
  | deliver id data =>
      refine lives.calm rfl ?_ ?_
      · simp [Bench.step]
      · simp [Bench.step, pursuits]
  | sensor place action =>
      by_cases own : place = index
      · subst own
        obtain ⟨sensor, here, life⟩ := id lives
        have inside := (List.getElem?_eq_some_iff.mp here).1
        have adjusts {after : Sensor} (master : Master)
            (life : after.Life (bench.pursuits place) history)
            : ({ bench with master }.setSensor place after).Lives place (history ++ []) := by
          rw [List.append_nil]
          exact ⟨after, List.getElem?_set_self inside, life⟩
        cases action with
        | bringUp table schedule number => exact lives.bringUp table schedule number
        | register =>
            simp only [Bench.step, here]
            exact adjusts _ (life.register grounded.lawful)
        | enable =>
            simp only [Bench.step, here]
            exact adjusts _ life.enable
        | disable =>
            simp only [Bench.step, here]
            exact adjusts _ life.disable
        | decode temperature now =>
            simp only [Bench.step, here]
            exact adjusts _ (life.decode bench.master temperature now)
        | dataReady =>
            refine lives.calm rfl ?_ ?_ <;> simp [Bench.step, here, stepSensor, pursuits]
      · exact lives.elsewhere own action

/-- A run leads a sensor on by its milestones, by induction over the actions. -/
theorem Grounded.lives_run (grounded : bench.Grounded) (lives : bench.Lives index history)
    (actions : List Action)
    : (bench.run actions).2.Lives index (history ++ bench.history index actions) := by
  induction actions generalizing bench history with
  | nil => exact (List.append_nil history).symm ▸ lives
  | cons action rest ih =>
      have later := ih (grounded.step action) (grounded.lives lives action)
      rw [List.append_assoc] at later
      exact later

theorem lives_assemble (capacity : Fin 255) (paces : PerBus (Option Pace))
    (buffers : List (List UInt8)) (sensors : List (Config × Nat)) (index : Fin sensors.length)
    : (assemble capacity paces buffers sensors).Lives index.val [] := by
  refine ⟨.new sensors[index].1 sensors[index].2, ?_, .new rfl rfl rfl rfl rfl rfl⟩
  simp [assemble, Bench.new]

/-- Only the first poll of a bring-up that passes its checks loads a table. -/
theorem bringUp_of_begun {table : ParameterTable}
    (member : .begun table ∈ bench.milestones index action)
    : ∃ schedule number, action = .sensor index (.bringUp table schedule number) := by
  have ended {result : Result} : .begun table ∉ Milestone.ofResult result := by
    cases result <;> simp [Milestone.ofResult]
  unfold milestones at member
  split at member
  · split at member
    · rename_i own
      obtain ⟨rfl, -⟩ := own
      rcases List.mem_cons.mp member with same | later
      · obtain rfl := Milestone.begun.inj same
        exact ⟨_, _, rfl⟩
      · exact absurd later ended
    · exact absurd member List.not_mem_nil
  · split at member
    · split at member
      · exact absurd member ended
      · exact absurd member List.not_mem_nil
    · exact absurd member List.not_mem_nil
  · exact absurd member List.not_mem_nil

end Bench

-----------------------------------------------------------------------------------------
-- Every run
-----------------------------------------------------------------------------------------

/-- The fields of a sensor agree with each other and with the milestones of its bring-ups. -/
structure Magnetometer.Sensor.Conforms (sensor : Sensor) (history : List Milestone) : Prop where
  held : sensor.handle.load.isSome = true ↔ sensor.state ≠ .uninitialized
  configured : sensor.configured = true ↔ .succeeded ∈ history
  once : history.countP Milestone.isSuccess ≤ 1
  line : sensor.lineEnables = history.countP Milestone.isSuccess
  working : sensor.configured = true → sensor.state ∈ [.configured, .enabled, .disabled]
  raw
    : sensor.configured = false
      → sensor.state ∈ [.uninitialized, .registered, .probing, .disabled]
  probing : sensor.state = .probing ↔ ∃ table, history = [.begun table]
  begun : (history.filterMap Milestone.table?).length ≤ 1
  calibration
    : sensor.calibration = (history.findSome? Milestone.table?).elim .identity .load

theorem Magnetometer.Sensor.Life.conforms {sensor : Sensor} {waiting : Nat}
    {history : List Milestone} (life : sensor.Life waiting history)
    : sensor.Conforms history := by
  cases life with
  | new state held raw line model none | registered state held raw line model none =>
      constructor <;> simp [state, held, raw, line, model]
  | probing state held raw line model few | failed state held raw line model none =>
      constructor <;>
        simp [state, held, raw, line, model, Milestone.isSuccess, Milestone.table?,
          List.findSome?_cons]
  | ready state held configured line model none =>
      rcases state with state | state | state <;> constructor <;>
        simp [state, held, configured, line, model, Milestone.isSuccess, Milestone.table?,
          List.findSome?_cons]

namespace Bench

/-- The sensor is disabled, and whatever is wanted of it is refused or does nothing. -/
structure Retired (index : Nat) (bench : Bench) : Prop where
  disabled
    : ∃ sensor, bench.sensors[index]? = some sensor ∧ sensor.state = .disabled
  register : (bench.step (.sensor index .register)).1.result = .sensorError .invalidState
  bringUp
    : ∀ table schedule number,
        (bench.step (.sensor index (.bringUp table schedule number))).1.result
        = .sensorError .invalidState
  enable : (bench.step (.sensor index .enable)).1.result = .sensorError .invalidState
  dataReady : (bench.step (.sensor index .dataReady)).2 = bench
  decode
    : ∀ temperature now,
        (bench.step (.sensor index (.decode temperature now))).1.result = .decoded none

variable {bench : Bench} {index : Nat} {history : List Milestone}

/-- A sensor whose bring-up has failed is retired, since it was never configured. -/
theorem Lives.retired (lives : bench.Lives index history) {cause : SensorError}
    (failed : .failed cause ∈ history)
    : bench.Retired index := by
  obtain ⟨sensor, here, life⟩ := lives
  cases life with
  | new | registered | probing | ready => simp at failed
  | failed state held raw line model none =>
      obtain ⟨handle, place⟩ := Option.isSome_iff_exists.mp held
      refine ⟨⟨sensor, here, state⟩, ?_, ?_, ?_, ?_, ?_⟩
      · simp [step, here, stepSensor, Sensor.register, state, Answer.ofResult, Result.ofSensor]
      · intro table schedule number
        simp [step, here, stepSensor, Sensor.startBringUp, place, state, settleBringUp,
          Result.ofSensor]
      · simp [step, here, stepSensor, Sensor.enable, raw, Answer.ofResult, Result.ofSensor]
      · simp [step, here, stepSensor, Sensor.dataReady, state]
      · intro temperature now
        simp [step, here, stepSensor, Sensor.decode, state, Answer.ofResult]

/-- A calibration that an action changes was never loaded before, and the action is the first poll
of the bring-up that loads it.
-/
theorem Grounded.loads (grounded : bench.Grounded) (lives : bench.Lives index history)
    {action : Action} {sensor after : Sensor} (here : bench.sensors[index]? = some sensor)
    (there : (bench.step action).2.sensors[index]? = some after)
    (changed : after.calibration ≠ sensor.calibration)
    : ∃ table schedule number,
        action = .sensor index (.bringUp table schedule number)
        ∧ history = []
        ∧ after.calibration = .load table := by
  obtain ⟨first, found, before⟩ := id lives
  obtain rfl := Option.some.inj (here.symm.trans found)
  obtain ⟨second, later, next⟩ := grounded.lives lives action
  obtain rfl := Option.some.inj (there.symm.trans later)
  have old := before.conforms.calibration
  have new := next.conforms.calibration
  rw [List.findSome?_append] at new
  cases loaded : history.findSome? Milestone.table? with
  | some table =>
      rw [loaded] at old new
      exact absurd (new.trans old.symm) changed
  | none =>
      obtain rfl : history = [] := by
        cases before with
        | new | registered => rfl
        | probing | ready | failed => simp [Milestone.table?, List.findSome?_cons] at loaded
      have begins : ∀ table, .begun table ∈ bench.milestones index action → _ :=
        fun _ => bringUp_of_begun
      rw [List.nil_append] at next
      generalize bench.milestones index action = reached at next begins
      cases next with
      | new _ _ _ _ model | registered _ _ _ _ model => exact absurd (model.trans old.symm) changed
      | probing _ _ _ _ model | ready _ _ _ _ model | failed _ _ _ _ model =>
          obtain ⟨schedule, number, same⟩ := begins _ List.mem_cons_self
          exact ⟨_, schedule, number, same, rfl, model⟩

/-- In every run a sensor conforms to the milestones of its bring-ups, whatever else is done. Its
calibration changes only with the first poll of a bring-up that passes its checks, and that happens
once. A sensor whose bring-up failed is retired for good.
-/
theorem sensor_conforms (capacity : Fin 255) (paces : PerBus (Option Pace))
    (buffers : List (List UInt8)) (sensors : List (Config × Nat)) (index : Fin sensors.length)
    (actions : List Action)
    : let bench := ((assemble capacity paces buffers sensors).run actions).2
      let history := (assemble capacity paces buffers sensors).history index.val actions
      ∃ sensor,
        bench.sensors[index.val]? = some sensor
        ∧ sensor.Conforms history
        ∧ (∀ action after, (bench.step action).2.sensors[index.val]? = some after
          → after.calibration ≠ sensor.calibration
          → ∃ table schedule number,
              action = .sensor index (.bringUp table schedule number)
              ∧ history = []
              ∧ after.calibration = .load table)
        ∧ ∀ cause, .failed cause ∈ history
          → ∀ later, (bench.run later).2.Retired index := by
  have assembled := grounded_assemble capacity paces buffers sensors
  have lives :=
    assembled.lives_run (lives_assemble capacity paces buffers sensors index) actions
  have grounded := assembled.run actions
  rw [List.nil_append] at lives
  generalize (assemble capacity paces buffers sensors).history index.val actions = history
    at lives ⊢
  generalize ((assemble capacity paces buffers sensors).run actions).2 = bench
    at lives grounded ⊢
  obtain ⟨sensor, here, life⟩ := id lives
  refine ⟨sensor, here, life.conforms, fun action after => grounded.loads lives here, ?_⟩
  intro cause failed later
  exact (grounded.lives_run lives later).retired (List.mem_append_left _ failed)

/-- The identity of the first sensor never matches, so its bring-up fails and it is retired. The
second one is brought up meanwhile, and a bring-up that begins after that reaches no milestone.
-/
theorem sensor_conforms_after_failure
    : let table : ParameterTable := ⟨.replicate 32 0⟩
      let sensors : List (Config × Nat) :=
        [(.factory, 0), ({ Config.factory with bus := .i2c2 }, 1)]
      let start := assemble 2 ⟨some .instant, some .instant, none⟩ [] sensors
      let actions : List Action :=
        [.sensor 0 .register, .sensor 1 .register, .arrange .i2c2 (.fallback identityCode),
          .sensor 0 (.bringUp table true (some 4)), .sensor 1 (.bringUp table false none), .poll 4,
          .poll 4, .poll 4, .poll 4, .sensor 1 (.bringUp table false none)]
      let bench := (start.run actions).2
      (∃ failed ready,
        bench.sensors[0]? = some failed
        ∧ failed.Conforms [.begun table, .failed .probeFailed]
        ∧ bench.sensors[1]? = some ready
        ∧ ready.Conforms [.begun table, .succeeded])
      ∧ ∀ later, (bench.run later).2.Retired 0 := by
  intro table sensors start actions bench
  have life := sensor_conforms 2 ⟨some .instant, some .instant, none⟩ [] sensors
  obtain ⟨failed, first, unlucky, -, retired⟩ := life ⟨0, by decide⟩ actions
  obtain ⟨ready, second, lucky, -, -⟩ := life ⟨1, by decide⟩ actions
  have fails : start.history 0 actions = [.begun table, .failed .probeFailed] := by
    decide +kernel
  have succeeds : start.history 1 actions = [.begun table, .succeeded] := by decide +kernel
  rw [fails] at unlucky retired
  rw [succeeds] at lucky
  have gone := retired .probeFailed (by simp)
  -- the run is the same by its name, so it need not be computed once more
  with_reducible exact ⟨⟨failed, ready, first, unlucky, second, lucky⟩, gone⟩

end Bench

end TwoWire
