import TwoWire.Proofs.Tasks

/-! Every action on a bench, accounted for by the events that it causes.

Clients keep to their rules, and nothing but the master and the end of its transfers touches the
streams. Then an action is a sequence of events, after which the bookkeeping of the bench is right
again.
-/

namespace TwoWire

open Scene
open Magnetometer

/-- The action keeps to the rules for clients, and it is none that touches a peripheral or a
transfer-complete flag by hand.
-/
def Action.Keeps (rules : ClientRules) : Action → Prop
  | register slave => rules.slave slave
  | tryTransfer request => rules.operation (.transfer request)
  | start operation _ => rules.operation operation
  | raise .. | manual .. => False
  | _ => True

namespace Bench

/-- The tasks that an action drops: the one that it names or whose number it takes, and a probe
that it begins without a number and that would have to wait.
-/
def drops (bench : Bench) : Action → List Task
  | .drop number => (bench.task? number).toList
  | .start _ number => (number.bind bench.task?).toList
  | .standby _ _ (some number) => (bench.task? number).toList
  | .standby handle schedule none =>
    match bench.master.startStandby handle (.new schedule) with
    | (.pending rest, delay, _) => [.standby rest delay]
    | (.ready _, _) => []
  | .sensor index (.bringUp _ _ number) =>
    if index < bench.sensors.length then (number.bind bench.task?).toList else []
  | _ => []

/-- The action drops a probe that has claimed its bus. -/
def Abandons (bench : Bench) (action : Action) : Prop :=
  ∃ task ∈ bench.drops action, task.holds?.isSome

instance (bench : Bench) (action : Action) : Decidable (bench.Abandons action) :=
  inferInstanceAs (Decidable (∃ task ∈ bench.drops action, task.holds?.isSome))

end Bench

/-- The slave that is given a stream when a task is polled. -/
def Task.accepted (master : Master) : Task → List Handle
  | .operation rest => rest.operation.accepted (master.resume rest).1
  | .standby .. | .bringUp .. => []

/-- The slave that is given a stream when something is done with a sensor. -/
def Magnetometer.Sensor.accepts (sensor : Sensor) (master : Master) : SensorAction → List Handle
  | .dataReady => sensor.captured master
  | _ => []

/-- The slaves that are given a stream by an action, as it is answered: each request for two or
more bytes that is accepted gives one to its slave.
-/
def Bench.accepts (bench : Bench) : Action → List Handle
  | .tryTransfer request => request.accepted (bench.master.tryTransfer request).1
  | .start operation _ => operation.accepted (bench.master.start operation).1
  | .poll number => (bench.task? number).toList.flatMap (Task.accepted bench.master)
  | .complete bus stream => (bench.master.complete bus stream).1.toList.flatMap Notice.accepted
  | .sensor index action =>
    bench.sensors[index]?.toList.flatMap fun sensor => sensor.accepts bench.master action
  | _ => []

/-- The slave that an action asks to register; a sensor asks only as long as it is new. -/
def Bench.registrant (bench : Bench) : Action → Option Slave
  | .register slave => some slave
  | .sensor index .register =>
    bench.sensors[index]?.bind fun sensor =>
      if sensor.state = .uninitialized then some sensor.slave else none
  | _ => none

/-- Why an event happened when an action was done on a bench. -/
def Scene.Event.CausedBy (rules : ClientRules) (bench : Bench) (action : Action)
    : Scene.Event → Prop
  | prepare bus =>
    action = .configureAll
    ∨ ∃ slave, bench.registrant action = some slave ∧ slave.bus = bus ∧ slave.address ≤ 0x7F
  | serve .client _ operation => rules.operation operation
  | serve .bringUp _ operation => operation.IsSingle
  | serve (.capture ring) slave _ =>
    ∃ sensor ∈ bench.sensors, sensor.ring = ring ∧ sensor.slave = slave
  | advance ring =>
    ∃ index sensor,
      action = .advanceRing index ∧ bench.sensors[index]? = some sensor ∧ sensor.ring = ring
  | land bus .rx _ data => action = .deliver bus data
  | forget bus => action = .forget bus
  | _ => True

namespace Bench

/-- The events that an action caused, with what it answered, what became of the bench, and the
slaves that were given a stream. The sensors stay the slaves that they were.
-/
structure Accounts (rules : ClientRules) (trials : PerBus (Option Nat)) (bench : Bench)
    (action : Action) (outcome : Answer × Bench) (accepted : List Handle)
    (events : List Scene.Event) (left : PerBus (Option Nat))
    : Prop where
  moves : Scene.Moves ⟨bench.master, trials⟩ events ⟨outcome.2.master, left⟩
  tracks : outcome.2.Tracks rules left
  told
    : events.filterMap Scene.Event.told?
      = (outcome.1.notice.map fun notice => (notice.bus, notice.handle)).toList
  streams : events.flatMap Scene.Event.streams = accepted
  causes : ∀ event ∈ events, event.CausedBy rules bench action
  sensors : outcome.2.sensors.map Sensor.slave = bench.sensors.map Sensor.slave

variable {rules : ClientRules} {trials left : PerBus (Option Nat)} {bench : Bench}
  {action : Action} {result : Result} {accepted : List Handle}

-----------------------------------------------------------------------------------------
-- Actions that leave tasks and sensors alone
-----------------------------------------------------------------------------------------

/-- An action that changes nothing but the master is accounted for by events that no probe
causes.
-/
theorem Tracks.accounts (tracks : bench.Tracks rules trials) {answer : Answer}
    {master : Master} {events : List Scene.Event}
    (moves : Scene.Moves ⟨bench.master, trials⟩ events ⟨master, trials⟩)
    (told
      : events.filterMap Scene.Event.told?
        = (answer.notice.map fun notice => (notice.bus, notice.handle)).toList)
    (streams : events.flatMap Scene.Event.streams = accepted)
    (calm
      : ∀ event ∈ events,
          event.CausedBy rules bench action
          ∧ (∀ bus, ¬ event.ProbesOn bus)
          ∧ ∀ slave, event = .enter slave → rules.slave slave)
    : bench.Accounts rules trials action (answer, { bench with master }) accepted events
        trials where
  moves := moves
  tracks :=
    tracks.after moves (fun _ _ bus _ event member => (calm event member).2.1 bus)
      (fun slave member => (calm _ member).2.2 slave rfl)
  told := told
  streams := streams
  causes event member := (calm event member).1
  sensors := rfl

/-- An action that changes nothing is accounted for by no event. -/
theorem Tracks.unchanged (tracks : bench.Tracks rules trials) {answer : Answer}
    (quiet : answer.notice = none)
    : bench.Accounts rules trials action (answer, bench) [] [] trials :=
  tracks.accounts .nil (by simp [quiet]) rfl (by simp)

/-- Serving what clients ask for is accounted for by what was served. -/
theorem Tracks.serves (tracks : bench.Tracks rules trials) {master : Master}
    (serves : bench.master.Serves .client rules.operation accepted master)
    : ∃ events,
        bench.Accounts rules trials action (.ofResult result, { bench with master }) accepted
          events trials := by
  obtain ⟨events, moves, streams, all⟩ := serves.moves (by simp) trials
  refine ⟨events, tracks.accounts moves (Master.Serves.untold all) streams ?_⟩
  intro event member
  obtain ⟨slave, operation, rfl, permitted⟩ := all event member
  exact ⟨permitted, fun _ probes => probes, by simp⟩

/-- A single event of the peripherals is accounted for by itself. -/
theorem Tracks.turns (tracks : bench.Tracks rules trials) {id : BusId} {event : Scene.Event}
    {bus : Bus} {memory : Memory}
    (turn
      : (bench.master.bus id).Turn bench.master.slaves id (trials.get id) event bus
          (trials.get id))
    (remembers : event.Remembers bench.master.memory memory) (silent : event.told? = none)
    (still : event.streams = []) (caused : event.CausedBy rules bench action)
    (unprobed : ∀ bus, ¬ event.ProbesOn bus)
    (plain : ∀ slave, event ≠ .enter slave)
    : bench.Accounts rules trials action
        (.ofResult result, { bench with master := { bench.master.setBus id bus with memory } })
        [] [event] trials := by
  refine tracks.accounts (.single (.ofTurn turn remembers)) ?_ (by simp [still]) ?_
  · simpa [Answer.ofResult] using silent
  · intro current member
    obtain rfl := List.mem_singleton.mp member
    exact ⟨caused, unprobed, fun slave same => absurd same (plain slave)⟩

/-- Something that says nothing can be done with a peripheral at any time. -/
theorem Tracks.touches (tracks : bench.Tracks rules trials) (id : BusId)
    (act : Peripheral → Result × Peripheral)
    (silent : ∀ peripheral : Peripheral, peripheral.Says [] (act peripheral).2)
    : ∃ events,
        bench.Accounts rules trials action (bench.withPeripheral id act) [] events trials := by
  unfold withPeripheral
  cases here : bench.master.peripheral? id with
  | none => exact ⟨_, tracks.unchanged rfl⟩
  | some peripheral =>
      exact ⟨_, tracks.turns (.touch here (silent peripheral)) rfl rfl rfl True.intro
        (fun _ probes => probes) (by simp)⟩

theorem Tracks.forgets (tracks : bench.Tracks rules trials) (bus : BusId)
    : ∃ events,
        bench.Accounts rules trials (.forget bus) (bench.step (.forget bus)) [] events
          trials := by
  simp only [step, withPeripheral]
  cases here : bench.master.peripheral? bus with
  | none => exact ⟨_, tracks.unchanged rfl⟩
  | some peripheral =>
      exact ⟨_, tracks.turns (.forget here) rfl rfl rfl rfl (fun _ probes => probes) (by simp)⟩

/-- The memory for which a reception is armed on a bus. -/
def reception (bench : Bench) (bus : BusId) : Option Window :=
  (bench.master.peripheral? bus).bind fun peripheral =>
    match peripheral.armed with
    | some (.rx, window) => some window
    | _ => none

/-- Bytes land for an armed reception only, which is then their event. -/
theorem Tracks.delivers (tracks : bench.Tracks rules trials) (bus : BusId) (data : List UInt8)
    : bench.Accounts rules trials (.deliver bus data) (bench.deliver bus data) []
        ((bench.reception bus).toList.map fun window => .land bus .rx window data) trials := by
  unfold deliver reception
  cases here : bench.master.peripheral? bus with
  | none => exact tracks.unchanged rfl
  | some peripheral =>
      simp only [Peripheral.deliver, Peripheral.takeArmed, Option.bind_some]
      cases armed : peripheral.armed with
      | none => exact tracks.unchanged rfl
      | some transfer =>
          obtain ⟨stream, window⟩ := transfer
          cases stream with
          | tx => exact tracks.unchanged rfl
          | rx =>
              exact tracks.turns (.land here armed) rfl rfl rfl rfl (fun _ probes => probes)
                (by simp)

/-- Bytes are sent out for an armed transmission only. -/
theorem Tracks.drains (tracks : bench.Tracks rules trials) (bus : BusId)
    : ∃ events, bench.Accounts rules trials action (bench.drain bus) [] events trials := by
  unfold drain withPeripheral
  cases here : bench.master.peripheral? bus with
  | none => exact ⟨_, tracks.unchanged rfl⟩
  | some peripheral =>
      simp only [Peripheral.drain, Peripheral.takeArmed]
      cases armed : peripheral.armed with
      | none =>
          exact ⟨_, tracks.turns (.touch here peripheral.says_nothing) rfl rfl rfl True.intro
            (fun _ probes => probes) (by simp)⟩
      | some transfer =>
          obtain ⟨stream, window⟩ := transfer
          by_cases same : stream = .tx
          · subst same
            have turn
                : (bench.master.bus bus).Turn bench.master.slaves bus (trials.get bus)
                    (.land bus .tx window []) _ _ :=
              .land here armed
            exact ⟨_, tracks.turns turn rfl rfl rfl True.intro (fun _ probes => probes) (by simp)⟩
          · simp only [same, if_false]
            exact ⟨_, tracks.turns (.touch here peripheral.says_nothing) rfl rfl rfl True.intro
              (fun _ probes => probes) (by simp)⟩

/-- A completion is accounted for by what it closes and what its slave asks for then. -/
theorem Tracks.completes (tracks : bench.Tracks rules trials) (bus : BusId) (stream : Stream)
    : ∃ events,
        bench.Accounts rules trials (.complete bus stream) (bench.step (.complete bus stream))
          ((bench.master.complete bus stream).1.toList.flatMap Notice.accepted) events
          trials := by
  have asks {handle : Handle} {slave : Slave}
      (found : bench.master.slaves.get? handle = some slave)
      : slave.reaction.Asks rules.operation := by
    rcases tracks.entries found with guest | ⟨sensor, -, -, rfl⟩
    · exact rules.asks slave guest
    · exact True.intro
  obtain ⟨events, moves, told, streams, all⟩ := tracks.coherent.complete asks bus stream
  refine ⟨events, tracks.accounts moves told streams ?_⟩
  intro event member
  rcases all event member with rfl | ⟨slave, handle, rfl⟩ | ⟨slave, operation, rfl, permitted⟩
  · exact ⟨True.intro, fun _ probes => probes, by simp⟩
  · exact ⟨True.intro, fun _ probes => probes, by simp⟩
  · exact ⟨permitted, fun _ probes => probes, by simp⟩

-----------------------------------------------------------------------------------------
-- Bringing up buses and registering slaves
-----------------------------------------------------------------------------------------

/-- A bus is brought up in one event, or it needs none. -/
theorem moves_configureOnce (master : Master) (trials : PerBus (Option Nat)) (id : BusId)
    : ∃ events,
        Scene.Moves ⟨master, trials⟩ events
          ⟨master.setBus id (master.bus id).configureOnce, trials⟩
        ∧ ∀ event ∈ events, event = .prepare id := by
  have unchanged : master.setBus id (master.bus id) = master := by
    simp [Master.setBus, Master.bus]
  unfold Bus.configureOnce
  cases here : (master.bus id).peripheral with
  | none => exact ⟨[], by simpa only [unchanged] using .nil, by simp⟩
  | some peripheral =>
      cases ready : (master.bus id).configured with
      | true => exact ⟨[], by simpa [unchanged] using .nil, by simp⟩
      | false => exact ⟨_, .single (.ofTurn (.prepare here ready) rfl), by simp⟩

/-- All buses are brought up one after the other. -/
theorem Tracks.configures (tracks : bench.Tracks rules trials)
    : ∃ events,
        bench.Accounts rules trials .configureAll (bench.step .configureAll) [] events
          trials := by
  obtain ⟨first, toSecond, firstAll⟩ := moves_configureOnce bench.master trials .i2c1
  obtain ⟨second, toThird, secondAll⟩ := moves_configureOnce _ trials .i2c2
  obtain ⟨third, toEnd, thirdAll⟩ := moves_configureOnce _ trials .i2c3
  have prepares {event : Scene.Event} (member : event ∈ first ++ second ++ third)
      : ∃ id, event = .prepare id := by
    rcases List.mem_append.mp member with early | late
    · rcases List.mem_append.mp early with one | two
      · exact ⟨_, firstAll event one⟩
      · exact ⟨_, secondAll event two⟩
    · exact ⟨_, thirdAll event late⟩
  refine ⟨_, tracks.accounts ((toSecond.append toThird).append toEnd) ?_ ?_ ?_⟩
  · refine List.filterMap_eq_nil_iff.mpr (fun event member => ?_)
    obtain ⟨_, rfl⟩ := prepares member
    rfl
  · refine List.flatMap_eq_nil_iff.mpr (fun event member => ?_)
    obtain ⟨_, rfl⟩ := prepares member
    rfl
  · intro event member
    obtain ⟨_, rfl⟩ := prepares member
    exact ⟨.inl rfl, fun _ probes => probes, by simp⟩

/-- What a registration did: its bus may have been brought up, and a slave that was accepted
entered the table under the handle that was answered.
-/
structure Registers (master : Master) (trials : PerBus (Option Nat)) (slave : Slave)
    (outcome : Except MasterError Handle × Master) (events : List Scene.Event)
    : Prop where
  moves : Scene.Moves ⟨master, trials⟩ events ⟨outcome.2, trials⟩
  own
    : ∀ event ∈ events,
        (event = .prepare slave.bus ∧ slave.address ≤ 0x7F)
        ∨ (event = .enter slave ∧ ∃ handle, outcome.1 = .ok handle)
  accepts
    : ∀ handle, outcome.1 = .ok handle
      → outcome.2.slaves.get? handle = some slave
        ∧ ∀ place known, outcome.2.slaves.get? place = some known
          → master.slaves.get? place = some known ∨ (place = handle ∧ known = slave)

theorem registers_register (master : Master) (trials : PerBus (Option Nat)) (slave : Slave)
    (fits : master.slaves.Fits)
    : ∃ events, Registers master trials slave (master.register slave) events := by
  unfold Master.register
  split
  · exact ⟨[], .nil, by simp, by simp⟩
  · rename_i low
    split
    · exact ⟨[], .nil, by simp, by simp⟩
    · rename_i present
      obtain ⟨events, moves, all⟩ := moves_configureOnce master trials slave.bus
      have prepares {event : Scene.Event} (member : event ∈ events)
          : event = .prepare slave.bus ∧ slave.address ≤ 0x7F :=
        ⟨all event member, UInt8.not_lt.mp low⟩
      simp only
      cases accepted : master.slaves.insert slave with
      | error cause =>
          exact ⟨events, moves, fun event member => .inl (prepares member), by simp⟩
      | ok both =>
          obtain ⟨handle, slaves⟩ := both
          obtain ⟨peripheral, here⟩ :=
            Option.ne_none_iff_exists'.mp (by simpa using present)
          have ready
              : (master.setBus slave.bus
                    (master.bus slave.bus).configureOnce).bus slave.bus
                = (master.bus slave.bus).configureOnce := by
            simp [Master.bus, Master.setBus]
          have bus : (master.bus slave.bus).peripheral = some peripheral := here
          have configured
              : (master.bus slave.bus).configureOnce.configured = true
                ∧ ∃ peripheral,
                    (master.bus slave.bus).configureOnce.peripheral = some peripheral := by
            unfold Bus.configureOnce
            simp only [bus]
            split
            · rename_i done
              exact ⟨done, _, bus⟩
            · exact ⟨rfl, _, rfl⟩
          obtain ⟨done, after, there⟩ := configured
          have entered
              : Scene.Move
                  ⟨master.setBus slave.bus (master.bus slave.bus).configureOnce, trials⟩
                  (.enter slave) _ :=
            .enter ((congrArg Bus.peripheral ready).trans there)
              ((congrArg Bus.configured ready).trans done) accepted
          refine ⟨_, moves.append (.single entered), ?_, ?_⟩
          · intro event member
            rcases List.mem_append.mp member with early | last
            · exact .inl (prepares early)
            · exact .inr ⟨List.mem_singleton.mp last, handle, rfl⟩
          · intro _ given
            cases given
            exact ⟨fits.get?_of_insert_self accepted, fun place known found =>
              SlaveTable.get?_insert_cases accepted found⟩

/-- Neither bringing up a bus nor entering a slave tells anyone. -/
theorem Registers.silent {master : Master} {slave : Slave}
    {outcome : Except MasterError Handle × Master} {events : List Scene.Event}
    (registers : Registers master trials slave outcome events)
    : events.filterMap Scene.Event.told? = [] := by
  refine List.filterMap_eq_nil_iff.mpr (fun event member => ?_)
  rcases registers.own event member with ⟨rfl, -⟩ | ⟨rfl, -⟩ <;> rfl

theorem Registers.streams {master : Master} {slave : Slave}
    {outcome : Except MasterError Handle × Master} {events : List Scene.Event}
    (registers : Registers master trials slave outcome events)
    : events.flatMap Scene.Event.streams = [] := by
  refine List.flatMap_eq_nil_iff.mpr (fun event member => ?_)
  rcases registers.own event member with ⟨rfl, -⟩ | ⟨rfl, -⟩ <;> rfl

theorem Registers.calm {master : Master} {slave : Slave}
    {outcome : Except MasterError Handle × Master} {events : List Scene.Event}
    (registers : Registers master trials slave outcome events)
    (asked : bench.registrant action = some slave) {event : Scene.Event}
    (member : event ∈ events)
    : event.CausedBy rules bench action ∧ ∀ bus, ¬ event.ProbesOn bus := by
  rcases registers.own event member with ⟨rfl, low⟩ | ⟨rfl, -⟩
  · exact ⟨.inr ⟨slave, asked, rfl, low⟩, fun _ probes => probes⟩
  · exact ⟨True.intro, fun _ probes => probes⟩

theorem Tracks.registers (tracks : bench.Tracks rules trials) {slave : Slave}
    (permitted : rules.slave slave)
    : ∃ events,
        bench.Accounts rules trials (.register slave) (bench.step (.register slave)) [] events
          trials := by
  obtain ⟨events, registers⟩ :=
    registers_register bench.master trials slave tracks.coherent.fits
  refine ⟨events, tracks.accounts registers.moves registers.silent registers.streams
    (fun event member => ?_)⟩
  have asked : bench.registrant (.register slave) = some slave := rfl
  obtain ⟨caused, unprobed⟩ := registers.calm asked member
  refine ⟨caused, unprobed, ?_⟩
  intro current equal
  subst equal
  rcases registers.own _ member with ⟨other, -⟩ | ⟨same, -⟩
  · simp at other
  · obtain rfl := Scene.Event.enter.inj same
    exact permitted

end Bench

end TwoWire
