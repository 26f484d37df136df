import TwoWire.Proofs.BringUpSteps
import TwoWire.Proofs.SensorLife
import TwoWire.Proofs.Settings

/-! The course of a bring-up, which its readings of the identity decide.

Whatever else is done meanwhile, and however often the bring-up is suspended, it says the frames of
its course and no others, pauses as long as the course says, and ends as the course ends.
-/

namespace TwoWire

open Magnetometer

namespace Magnetometer

-----------------------------------------------------------------------------------------
-- The course that readings decide
-----------------------------------------------------------------------------------------

/-- What a bring-up does from its beginning to its end. -/
structure Course where
  frames : List WireFrame
  /-- In milliseconds. -/
  pause : Nat
  outcome : Except SensorError Unit

/-- A number of readings of the identity. -/
def identityFrames (address : UInt8) (readings : Nat → UInt8) (count : Nat) : List WireFrame :=
  (List.range count).map fun trial => identityFrame address (readings trial)

/-- The identity is read until it matches, with a pause between two readings. A match is followed by
the two writes, each with a pause after it. If no reading matches within the trials, nothing is
written.
-/
def Config.course (config : Config) (readings : Nat → UInt8) : Course :=
  match (List.range config.probeTrials).find? fun trial => readings trial = 0xC4 with
  | some misses =>
    ⟨identityFrames config.address readings (misses + 1)
        ++ [resetFrame config.address, activeFrame config.address],
      misses * config.probeInterval + 2 * config.settleTime, .ok ()⟩
  | none =>
    ⟨identityFrames config.address readings config.probeTrials,
      (config.probeTrials - 1) * config.probeInterval, .error .probeFailed⟩

/-- The stage and the times that the data-ready line was switched on, after a bring-up. -/
def finalStage : Except SensorError Unit → State × Nat
  | .ok () => (.configured, 1)
  | .error _ => (.disabled, 0)

variable {config : Config} {readings : Nat → UInt8} {misses count : Nat} {values : List UInt8}
  {frames : List WireFrame} {pause : Nat} {outcome : Except SensorError Unit} {goal : Goal}

theorem course_of_match (left : misses < config.probeTrials)
    (wrong : ∀ trial < misses, readings trial ≠ 0xC4) (right : readings misses = 0xC4)
    : config.course readings
      = ⟨identityFrames config.address readings (misses + 1)
            ++ [resetFrame config.address, activeFrame config.address],
          misses * config.probeInterval + 2 * config.settleTime, .ok ()⟩ := by
  have found
      : (List.range config.probeTrials).find? (fun trial => readings trial = 0xC4)
        = some misses := by
    rw [List.find?_range_eq_some]
    exact ⟨by simp [right], List.mem_range.mpr left, fun trial less => by simp [wrong trial less]⟩
  simp only [Config.course, found]

theorem course_of_no_match (wrong : ∀ trial < config.probeTrials, readings trial ≠ 0xC4)
    : config.course readings
      = ⟨identityFrames config.address readings config.probeTrials,
          (config.probeTrials - 1) * config.probeInterval, .error .probeFailed⟩ := by
  have missed
      : (List.range config.probeTrials).find? (fun trial => readings trial = 0xC4) = none := by
    rw [List.find?_range_eq_none]
    exact fun trial less => by simp [wrong trial less]
  simp only [Config.course, missed]

/-- A course begins with every number of readings before which none matches. -/
theorem identityFrames_heads_course (left : count ≤ config.probeTrials)
    (wrong : ∀ trial < count, readings trial ≠ 0xC4)
    : identityFrames config.address readings count <+: (config.course readings).frames := by
  have heads {more : Nat} (fewer : count ≤ more)
      : identityFrames config.address readings count
        <+: identityFrames config.address readings more := by
    obtain ⟨rest, rfl⟩ := Nat.exists_eq_add_of_le fewer
    rw [identityFrames, identityFrames, List.range_add, List.map_append]
    exact List.prefix_append _ _
  cases found : (List.range config.probeTrials).find? fun trial => readings trial = 0xC4 with
  | none =>
      simp only [Config.course, found]
      exact heads left
  | some misses =>
      have right : readings misses = 0xC4 := by
        simpa using (List.find?_range_eq_some.mp found).1
      have fewer : count ≤ misses := Nat.le_of_not_lt fun less => wrong misses less right
      simp only [Config.course, found]
      exact (heads (Nat.le_succ_of_le fewer)).trans (List.prefix_append _ _)

-----------------------------------------------------------------------------------------
-- Bring-ups that follow their course
-----------------------------------------------------------------------------------------

theorem map_identityFrame (heads : Heads values readings) (address : UInt8)
    : values.map (identityFrame address) = identityFrames address readings values.length := by
  refine List.ext_getElem (by simp [identityFrames]) (fun place inside _ => ?_)
  have inside : place < values.length := by simpa using inside
  simp [identityFrames, heads place _ (List.getElem?_eq_getElem inside)]

/-- Readings receive what they answered, by induction over them. -/
theorem received_identity (address : UInt8) (values : List UInt8)
    : ((values.map (identityFrame address)).flatMap WireFrame.commands).filterMap
        Command.received?
      = values := by
  induction values with
  | nil => rfl
  | cons value rest ih =>
      rw [List.map_cons, List.flatMap_cons, List.filterMap_append, ih, identityFrame,
        WireFrame.received_readByte]
      rfl

/-- A bring-up that ended did what its readings decide, by cases on how it ended. -/
theorem Concludes.course (concluded : Concludes config frames pause outcome)
    (heads : Heads ((frames.flatMap WireFrame.commands).filterMap Command.received?) readings)
    : config.course readings = ⟨frames, pause, outcome⟩ := by
  cases concluded with
  | succeeded reached =>
      cases reached with
      | @finish misses wrong left =>
          have heads : Heads (misses ++ [0xC4]) readings := by
            rw [List.flatMap_append, List.filterMap_append, received_identity] at heads
            exact heads.of_append
          rw [course_of_match left (heads.of_append.ne wrong) heads.last,
            map_identityFrame heads, List.length_append, List.length_singleton]
  | @failed misses wrong spent =>
      rw [received_identity] at heads
      rw [course_of_no_match (spent ▸ heads.ne wrong), map_identityFrame heads, spent]

/-- A bring-up that is under way has done the beginning of what its readings decide, by cases on
the step that comes next.
-/
theorem Reaches.heads_course (reached : Reaches config goal frames pause)
    (heads : Heads ((frames.flatMap WireFrame.commands).filterMap Command.received?) readings)
    : frames <+: (config.course readings).frames := by
  cases reached with
  | @identify misses trials wrong left =>
      rw [received_identity] at heads
      rw [map_identityFrame heads]
      exact identityFrames_heads_course (by omega) (heads.ne wrong)
  | @enableReset misses wrong left =>
      rw [received_identity] at heads
      rw [course_of_match left (heads.of_append.ne wrong) heads.last, map_identityFrame heads,
        List.length_append, List.length_singleton]
      exact List.prefix_append _ _
  | @activate misses wrong left =>
      have heads : Heads (misses ++ [0xC4]) readings := by
        rw [List.flatMap_append, List.filterMap_append, received_identity] at heads
        exact heads.of_append
      rw [course_of_match left (heads.of_append.ne wrong) heads.last, map_identityFrame heads,
        List.length_append, List.length_singleton]
      exact (List.prefix_append_right_inj _).mpr ⟨[activeFrame config.address], rfl⟩
  | @finish misses wrong left =>
      exact (Concludes.succeeded (.finish wrong left)).course heads ▸ List.prefix_rfl

/-- A bring-up that begins has said nothing and reads the identity first, if it may read it at all.
-/
theorem BringUp.proceeds_begin {handle : Handle} {slave : Slave} {master : Master}
    (placed : Placed config handle slave master) (schedule : Schedule)
    : ∃ more,
        Proceeds config handle slave [] more
          ((Delay.new schedule).ahead ((Goal.identify config.probeTrials).ahead config)
            + (master.bus config.bus).isBusy.toNat)
          master (identify config handle config.probeTrials (.new schedule) master) := by
  have fresh : (Delay.new schedule).elapsed = 0 * 1000000 := rfl
  cases trials : config.probeTrials with
  | zero =>
      have concluded : Concludes config [] 0 (.error .probeFailed) := by
        have failed : Concludes config _ _ _ := .failed (List.not_mem_nil (a := 0xC4)) trials.symm
        simpa [trials] using failed
      exact ⟨[], proceeds_fail concluded fresh⟩
  | succ left =>
      have reached : Reaches config (.identify (left + 1)) [] 0 := by
        have begun : Reaches config (.identify (left + 1)) _ _ :=
          .identify (List.not_mem_nil (a := 0xC4)) (by simp [trials])
        simpa using begun
      exact proceeds_identify placed reached fresh

end Magnetometer

-----------------------------------------------------------------------------------------
-- Turns of a bring-up
-----------------------------------------------------------------------------------------

/-- An action used at most this bus, and it left every bus to whom it belonged. -/
structure Turn.Modest (id : BusId) (turn : Turn) : Prop where
  elsewhere : ∀ other, other ≠ id → turn.said other = []
  owners
    : ∀ other,
        (turn.after.master.bus other).owner = (turn.before.master.bus other).owner

namespace Bench

/-- The stage of a sensor, and how often its data-ready line was switched on. -/
def stage? (index : Nat) (bench : Bench) : Option (State × Nat) :=
  bench.sensors[index]?.map fun sensor => (sensor.state, sensor.lineEnables)

/-- How many turns that find the bus idle a bring-up may take without ending: one for each poll that
finds a slice of its pauses unfinished.
-/
def patience (config : Config) (schedule : Schedule) : Nat :=
  schedule.polls 0
    (config.probeTrials * (Delay.milliseconds config.probeInterval).length
      + 2 * (Delay.milliseconds config.settleTime).length)

/-- How a bring-up fares after its turns, of which the last is given: it waits, or it is over. -/
inductive Fares (config : Config) (handle : Handle) (slave : Slave) (schedule : Schedule)
    (index number : Nat) (own : List Turn) (last : Turn) (bench : Bench)
    : List WireFrame → Prop
  | waits {frames rest delay} (waiting : bench.task? number = some (.bringUp index rest delay))
    (stands : BringUp.Stands config handle slave frames rest delay)
    (patient
      : own.countP (Turn.findsIdle config.bus) + delay.ahead (rest.ahead config)
        ≤ patience config schedule)
    (answered : last.answer.result = .pending)
    (stage : last.after.stage? index = some (.probing, 0))
    : Fares config handle slave schedule index number own last bench frames
  | ended {frames pause outcome delay} (gone : bench.task? number = none)
    (concluded : Concludes config frames pause outcome)
    (elapsed : delay.elapsed = pause * 1000000)
    (patient : own.countP (Turn.findsIdle config.bus) ≤ patience config schedule + 1)
    (answered : last.answer = ⟨.ofSensor (fun _ => .done) outcome, some delay, none⟩)
    (stage : last.after.stage? index = some (finalStage outcome))
    : Fares config handle slave schedule index number own last bench frames

variable {config : Config} {configs : List Config} {handle : Handle} {slave : Slave}
  {schedule : Schedule} {index number left : Nat} {own : List Turn} {bench cleared : Bench}
  {sensor : Sensor} {progress : Progress} {action : Action} {frames more : List WireFrame}

/-- A turn that takes a bring-up on says what the bring-up says, leaves the buses to their owners,
and leads to where the bring-up then is.
-/
theorem fares_settleBringUp
    (step
      : bench.step action
        = cleared.settleBringUp index (some number)
            (progress.1, sensor.settle progress.1, progress.2))
    (inside : index < cleared.sensors.length) (free : cleared.task? number = none)
    (probing : sensor.state = .probing) (line : sensor.lineEnables = 0)
    (present : (bench.master.peripheral? config.bus).isSome = true)
    (patient : own.countP (Turn.findsIdle config.bus) + left ≤ patience config schedule)
    (proceeds
      : BringUp.Proceeds config handle slave frames more
          (left + (bench.master.bus config.bus).isBusy.toNat) bench.master progress)
    : (bench.turn action).Modest config.bus
      ∧ (bench.turn action).said config.bus = more.flatMap WireFrame.commands
      ∧ Fares config handle slave schedule index number (own ++ [bench.turn action])
          (bench.turn action) (bench.step action).2 (frames ++ more) := by
  have master : (bench.step action).2.master = progress.2.2 := by
    rw [step, master_settleBringUp]
  have stage
      : (bench.step action).2.stage? index
        = some ((sensor.settle progress.1).state, (sensor.settle progress.1).lineEnables) := by
    rw [step, stage?, sensors_settleBringUp, List.getElem?_set_self inside]
    rfl
  refine ⟨⟨?_, ?_⟩, ?_, ?_⟩
  · intro other distinct
    refine Master.saidUntil_of_bus ?_
    rw [turn, master]
    exact proceeds.speaks.same.bus_of_ne distinct
  · intro other
    simp only [turn, master]
    by_cases same : other = config.bus
    · rw [same]
      exact proceeds.owner
    · rw [proceeds.speaks.same.bus_of_ne same]
  · rw [Turn.said, turn, master]
    exact proceeds.speaks.saidUntil present
  · obtain ⟨outcome, delay, next⟩ := progress
    have counted
        : [bench.turn action].countP (Turn.findsIdle config.bus)
            + (bench.master.bus config.bus).isBusy.toNat
          = 1 := by
      cases busy : (bench.master.bus config.bus).isBusy <;> simp [turn, Turn.findsIdle, busy]
    cases outcome with
    | pending rest =>
        obtain ⟨stands, fewer⟩ := proceeds.waits rest rfl
        refine .waits ?_ stands ?_ ?_ ?_
        · simp only [step, settleBringUp]
          exact task?_keep_self _ _ number
        · rw [List.countP_append]
          omega
        · simp only [turn, step, settleBringUp]
        · simpa [turn, Sensor.settle, probing, line] using stage
    | ready outcome =>
        obtain ⟨pause, concluded, elapsed⟩ := proceeds.ends outcome rfl
        refine .ended ?_ concluded elapsed ?_ ?_ ?_
        · simp only [step, settleBringUp]
          exact free
        · rw [List.countP_append]
          omega
        · simp only [turn, step, settleBringUp]
        · cases outcome <;> simpa [turn, Sensor.settle, finalStage, line] using stage

/-- What is so after every action of a run in which a bring-up is minded. -/
structure Pursued (configs : List Config) (config : Config) (handle : Handle) (slave : Slave)
    (schedule : Schedule) (index number : Nat) (bench : Bench) (own : List Turn)
    : Prop where
  grounded : bench.Grounded
  housed : bench.Housed configs
  lives : ∃ history, bench.Lives index history
  known : bench.master.slaves.get? handle = some slave
  modest : ∀ turn ∈ own, turn.Modest config.bus
  fares
    : ∃ earlier last frames,
        own = earlier ++ [last]
        ∧ own.flatMap (·.said config.bus) = frames.flatMap WireFrame.commands
        ∧ Fares config handle slave schedule index number own last bench frames

/-- What is done beside a bring-up leaves it where it is. -/
theorem Pursued.beside
    (pursued : Pursued configs config handle slave schedule index number bench own)
    (apart : action.names? ≠ some number)
    : Pursued configs config handle slave schedule index number (bench.step action).2 own := by
  obtain ⟨grounded, housed, ⟨history, lives⟩, known, modest, earlier, last, frames, split, said,
    fares⟩ := pursued
  have keeps : (bench.step action).2.task? number = bench.task? number :=
    (beside_step apart).keeps
  refine ⟨grounded.step action, housed.step grounded action, ⟨_, grounded.lives lives action⟩,
    grounded.known_step action known, modest, earlier, last, frames, split, said, ?_⟩
  cases fares with
  | waits waiting stands patient answered stage =>
      exact .waits (keeps.trans waiting) stands patient answered stage
  | ended gone concluded elapsed patient answered stage =>
      exact .ended (keeps.trans gone) concluded elapsed patient answered stage

/-- A sensor for which a bring-up waits is probing, with its line off. -/
theorem Lives.probing {history : List Milestone} {rest : BringUp} {delay : Delay}
    (lives : bench.Lives index history)
    (waiting : bench.task? number = some (.bringUp index rest delay))
    : ∃ sensor,
        bench.sensors[index]? = some sensor
        ∧ sensor.state = .probing
        ∧ sensor.lineEnables = 0 := by
  obtain ⟨sensor, here, life⟩ := lives
  have fewer : (bench.discard number).pursuits index < bench.pursuits index :=
    pursuits_discard_lt waiting (by simp [Task.pursues])
  cases life with
  | probing state held raw line => exact ⟨sensor, here, state, line⟩
  | new _ _ _ _ _ none | registered _ _ _ _ _ none | ready _ _ _ _ _ none
  | failed _ _ _ _ _ none => omega

theorem Grounded.placed (grounded : bench.Grounded)
    (known : bench.master.slaves.get? handle = some slave) (bus : slave.bus = config.bus)
    (address : slave.address = config.address)
    : BringUp.Placed config handle slave bench.master := by
  refine ⟨?_, bus, address⟩
  rcases grounded.lawful.resolve handle with ⟨other, found, resolved⟩ | ⟨past, -⟩
  · obtain rfl := Option.some.inj (known.symm.trans found)
    exact resolved
  · simp [SlaveTable.get?_eq_none_iff.mpr past] at known

theorem Housed.config_eq (housed : bench.Housed configs) (named : configs[index]? = some config)
    (here : bench.sensors[index]? = some sensor)
    : sensor.config = config := by
  rw [← housed.configs, List.getElem?_map, here] at named
  exact Option.some.inj named

/-- The first poll of a bring-up is a turn of its own. -/
theorem pursued_begin (grounded : bench.Grounded) (housed : bench.Housed configs)
    {history : List Milestone} (lives : bench.Lives index history)
    (named : configs[index]? = some config)
    (registered : bench.sensors[index]?.map Sensor.state = some .registered)
    (table : ParameterTable) (schedule : Schedule) (number : Nat)
    : let first := Action.sensor index (.bringUp table schedule (some number))
      ∃ handle slave,
        slave.bus = config.bus
        ∧ slave.address = config.address
        ∧ Pursued configs config handle slave schedule index number (bench.step first).2
            [bench.turn first] := by
  intro first
  obtain ⟨sensor, here, life⟩ := id lives
  have ready : sensor.state = .registered := by simpa [here] using registered
  obtain rfl := housed.config_eq named here
  cases life with
  | registered _ held raw line =>
      obtain ⟨handle, place⟩ := Option.isSome_iff_exists.mp held
      have known := (housed.homed sensor (List.mem_of_getElem? here)).known handle place
      have placed : BringUp.Placed sensor.config handle sensor.slave bench.master :=
        grounded.placed known rfl rfl
      obtain ⟨more, proceeds⟩ := BringUp.proceeds_begin placed schedule
      have step
          : bench.step first
            = (bench.discard number).settleBringUp index (some number)
                (let progress :=
                  BringUp.identify sensor.config handle sensor.config.probeTrials (.new schedule)
                    bench.master
                 let probing := { sensor with calibration := .load table, state := .probing }
                 (progress.1, probing.settle progress.1, progress.2)) := by
        simp only [first, Bench.step, here, stepSensor, Sensor.startBringUp, place, ready,
          if_true]
        rfl
      have patient
          : ([] : List Turn).countP (Turn.findsIdle sensor.config.bus)
              + (Delay.new schedule).ahead
                  ((Goal.identify sensor.config.probeTrials).ahead sensor.config)
            ≤ patience sensor.config schedule := by
        simp [patience, Goal.ahead]
      obtain ⟨modest, said, fares⟩ :=
        fares_settleBringUp step (List.getElem?_eq_some_iff.mp here).1
          (bench.task?_discard_self number) rfl line placed.present patient proceeds
      refine ⟨handle, sensor.slave, rfl, rfl, grounded.step first, housed.step grounded first,
        ⟨_, grounded.lives lives first⟩, grounded.known_step first known, ?_, [], _, more, rfl, ?_,
        fares⟩
      · simpa using modest
      · simpa using said
  | new state | probing state | failed state => simp [state] at ready
  | ready state => simp [ready] at state

/-- A later poll is a turn that takes the bring-up on from where it stands. -/
theorem Pursued.poll (pursued : Pursued configs config handle slave schedule index number bench own)
    (named : configs[index]? = some config) (bus : slave.bus = config.bus)
    (address : slave.address = config.address) {task : Task}
    (waits : bench.task? number = some task)
    : Pursued configs config handle slave schedule index number (bench.step (.poll number)).2
        (own ++ [bench.turn (.poll number)]) := by
  obtain ⟨grounded, housed, ⟨history, lives⟩, known, modest, earlier, last, frames, split, said,
    fares⟩ := pursued
  have placed := grounded.placed known bus address
  cases fares with
  | ended gone => simp [waits] at gone
  | @waits rest delay waiting stands patient answered stage =>
      obtain ⟨sensor, here, probing, line⟩ := lives.probing waiting
      obtain rfl := housed.config_eq named here
      obtain ⟨more, proceeds⟩ := stands.proceeds placed
      have step
          : bench.step (.poll number)
            = (bench.discard number).settleBringUp index (some number)
                (let progress := rest.resume sensor.config delay bench.master
                 (progress.1, sensor.settle progress.1, progress.2)) := by
        have there : (bench.discard number).sensors[index]? = some sensor := here
        simp only [Bench.step, waiting, resume, there, Sensor.resumeBringUp]
        rfl
      obtain ⟨sober, spoken, fares⟩ :=
        fares_settleBringUp step (List.getElem?_eq_some_iff.mp here).1
          (bench.task?_discard_self number) probing line placed.present patient proceeds
      refine ⟨grounded.step _, housed.step grounded _, ⟨_, grounded.lives lives _⟩,
        grounded.known_step _ known, ?_, own, _, frames ++ more, rfl, ?_, fares⟩
      · intro turn member
        rcases List.mem_append.mp member with old | new
        · exact modest turn old
        · obtain rfl := List.mem_singleton.mp new
          exact sober
      · rw [List.flatMap_append, List.flatMap_append, said, List.flatMap_singleton, spoken]

-----------------------------------------------------------------------------------------
-- Every run
-----------------------------------------------------------------------------------------

/-- A bring-up keeps to a course: it waits, having done the beginning of it, or it is over, having
done all of it. While it waits the sensor is probing, and not more turns found the bus idle than
polls find the pauses of the longest course unfinished. It is over after one more at the latest.
-/
inductive KeepsTo (config : Config) (course : Course) (schedule : Schedule) (index : Nat)
    (own : List Turn) (last : Turn)
    : Prop
  | waits (answered : last.answer.result = .pending)
    (said
      : own.flatMap (·.said config.bus) <+: course.frames.flatMap WireFrame.commands)
    (stage : last.after.stage? index = some (.probing, 0))
    (patient : own.countP (Turn.findsIdle config.bus) ≤ patience config schedule)
  | ended {delay}
    (answered
      : last.answer = ⟨.ofSensor (fun _ => .done) course.outcome, some delay, none⟩)
    (said : own.flatMap (·.said config.bus) = course.frames.flatMap WireFrame.commands)
    (elapsed : delay.elapsed = course.pause * 1000000)
    (patient : own.countP (Turn.findsIdle config.bus) ≤ patience config schedule + 1)
    (stage : last.after.stage? index = some (finalStage course.outcome))

/-- A bring-up of a registered sensor keeps to the course that its readings of the identity decide,
whatever was done before and whatever else is done while it is polled. Its turns use the bus of the
sensor only, and they leave every bus to whom it belonged, so the bring-up holds none while it
waits.
-/
theorem bring_up_keeps_to_its_course (capacity : Fin 255) (paces : PerBus (Option Pace))
    (buffers : List (List UInt8)) (sensors : List (Config × Nat)) (index : Fin sensors.length)
    (earlier between : List Action) (table : ParameterTable) (schedule : Schedule) (number : Nat)
    (readings : Nat → UInt8)
    : let config := sensors[index].1
      let bench := ((assemble capacity paces buffers sensors).run earlier).2
      let first := Action.sensor index (.bringUp table schedule (some number))
      let own := bench.turns number (first :: between)
      bench.sensors[index.val]?.map Sensor.state = some .registered
      → Follows (Minds number) (bench.step first).2 between
      → Heads ((own.flatMap (·.said config.bus)).filterMap Command.received?) readings
      → (∀ turn ∈ own, turn.Modest config.bus)
        ∧ ∃ last,
            own.getLast? = some last
            ∧ KeepsTo config (config.course readings) schedule index own last := by
  intro config bench first own registered follows heads
  have assembled := grounded_assemble capacity paces buffers sensors
  have lives :=
    assembled.lives_run (lives_assemble capacity paces buffers sensors index) earlier
  have named : (sensors.map Prod.fst)[index.val]? = some config := by simp [config]
  obtain ⟨handle, slave, bus, address, begun⟩ :=
    pursued_begin (assembled.run earlier)
      ((housed_assemble capacity paces buffers sensors).run assembled earlier) lives named
      registered table schedule number
  have beside (bench : Bench) (own : List Turn) (action : Action)
      (pursued
        : Pursued (sensors.map Prod.fst) config handle slave schedule index.val number bench own)
      (_ : Minds number bench action) (apart : action.names? ≠ some number)
      : Pursued (sensors.map Prod.fst) config handle slave schedule index.val number
          (bench.step action).2 own :=
    pursued.beside apart
  have pursued := follows.turns (fun _ _ minds => minds) beside
    (fun _ _ _ pursued _ waits => pursued.poll named bus address waits) begun
  have same : [bench.turn first] ++ (bench.step first).2.turns number between = own := by
    simp [own, turns, first, Action.names?]
  rw [same] at pursued
  obtain ⟨-, -, -, -, modest, before, last, frames, split, said, fares⟩ := pursued
  rw [said] at heads
  refine ⟨modest, last, by rw [split, List.getLast?_concat], ?_⟩
  cases fares with
  | waits _ stands patient answered stage =>
      obtain ⟨pause, reached, -⟩ := stands.reached
      refine .waits answered ?_ stage (by omega)
      obtain ⟨rest, whole⟩ := reached.heads_course heads
      rw [said, ← whole, List.flatMap_append]
      exact List.prefix_append _ _
  | ended gone concluded elapsed patient answered stage =>
      rw [concluded.course heads]
      exact .ended answered said elapsed patient stage

/-- So does one that finds the bus busy, misses once, and goes through slices of pauses that take
one poll, two, none and one. It ends with the sensor configured.
-/
theorem bring_up_keeps_to_its_course_after_a_miss
    : let config : Config := { Config.factory with probeTrials := 3, probeInterval := 5000 }
      let earlier : List Action :=
        [.sensor 0 .register, .register ⟨.i2c1, 0x50, .none⟩,
          .arrange .i2c1 (.enqueue [0x00, 0xC4]),
          .tryTransfer ⟨.write, ⟨1⟩, ⟨.bits8, 0x00⟩, ⟨.buffer 0, 0, 2⟩⟩]
      let between : List Action :=
        [.poll 4, .drain .i2c1, .complete .i2c1 .tx, .poll 4, .poll 4, .poll 4, .poll 4, .poll 4]
      let readings : Nat → UInt8 := fun trial => if trial = 0 then 0x00 else 0xC4
      let bench := ((assemble 2 ⟨some .instant, none, none⟩ [[1, 2]] [(config, 0)]).run earlier).2
      let schedule : Schedule := ⟨fun slice => (slice + 1) % 3⟩
      let first : Action := .sensor 0 (.bringUp ⟨.replicate 32 0⟩ schedule (some 4))
      let own := bench.turns 4 (first :: between)
      bench.sensors[0]?.map Sensor.state = some .registered
      ∧ Follows (Minds 4) (bench.step first).2 between
      ∧ Heads ((own.flatMap (·.said .i2c1)).filterMap Command.received?) readings
      ∧ ((∀ turn ∈ own, turn.Modest .i2c1)
        ∧ ∃ last,
            own.getLast? = some last
            ∧ KeepsTo config (config.course readings) schedule 0 own last)
      ∧ (bench.run (first :: between)).2.stage? 0 = some (.configured, 1) := by
  intro config earlier between readings bench schedule first own
  have registered : bench.sensors[0]?.map Sensor.state = some .registered := by decide +kernel
  have follows : Follows (Minds 4) (bench.step first).2 between := by
    have polled (bench : Bench) (waits : (bench.task? 4).isSome = true) : Minds 4 bench (.poll 4) :=
      .inr ⟨rfl, waits⟩
    refine ⟨polled _ ?_, .inl (by decide), .inl (by decide), polled _ ?_, polled _ ?_, polled _ ?_,
      polled _ ?_, polled _ ?_, True.intro⟩ <;> decide +kernel
  have heads : Heads ((own.flatMap (·.said .i2c1)).filterMap Command.received?) readings := by
    have received
        : (own.flatMap (·.said .i2c1)).filterMap Command.received? = [0x00, 0xC4] := by
      decide +kernel
    rw [received]
    rintro (_ | _ | place) value found
    · exact Option.some.inj found
    · exact Option.some.inj found
    · simp at found
  exact ⟨registered, follows, heads,
    bring_up_keeps_to_its_course 2 ⟨some .instant, none, none⟩ [[1, 2]] [(config, 0)] 0 earlier
      between ⟨.replicate 32 0⟩ schedule 4 readings registered follows heads,
    by decide +kernel⟩

end Bench

end TwoWire
