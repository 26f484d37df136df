import TwoWire.Bench.Action
import TwoWire.Bench.Answer
import TwoWire.Magnetometer.BringUp
import TwoWire.Master.Standby

/-! A bench: one master with its peripherals, the sensors on it, and the tasks that wait.

A run is a sequence of actions in any order. Every action is answered and leads to one next
state, so what holds after each action holds in every run.
-/

namespace TwoWire

open Magnetometer

/-- A task that waits to be polled again. -/
inductive Task where
  | operation (rest : Claiming)
  | standby (rest : Standby) (delay : Delay)
  | bringUp (sensor : Nat) (rest : BringUp) (delay : Delay)

/-- A master with sensors and waiting tasks. -/
structure Bench where
  master : Master
  sensors : List Sensor
  tasks : List (Nat × Task)

namespace Bench

/-- A bench on which nothing has happened yet. Each sensor comes with the number of the ring that
it fills, and there are as many rings as sensors.
-/
def new (capacity : Fin 255) (peripherals : PerBus (Option Peripheral))
    (buffers : List (List UInt8)) (sensors : List (Config × Nat))
    : Bench where
  master := .new capacity peripherals ⟨buffers, sensors.map fun _ => .new⟩
  sensors := sensors.map fun (config, ring) => .new config ring
  tasks := []

/-! ### Tasks -/

def task? (bench : Bench) (number : Nat) : Option Task :=
  bench.tasks.lookup number

def discard (bench : Bench) (number : Nat) : Bench :=
  { bench with tasks := bench.tasks.filter fun entry => entry.1 != number }

/-- Make room for a task that is about to begin: one of the same number is dropped first. -/
def vacate (bench : Bench) : Option Nat → Bench
  | none => bench
  | some number => bench.discard number

/-- Keep a task that waits if it has a number; without one it is dropped. -/
def keep (bench : Bench) (task : Task) : Option Nat → Bench
  | none => bench
  | some number => { bench with tasks := (number, task) :: bench.tasks }

def settleOperation (bench : Bench) (number : Option Nat)
    : Poll Claiming (Except MasterError Reply) × Master → Answer × Bench
  | (.ready outcome, master) =>
    (.ofResult (.ofMaster .ofReply outcome), { bench with master })
  | (.pending rest, master) =>
    (.ofResult .pending, { bench with master }.keep (.operation rest) number)

def settleStandby (bench : Bench) (number : Option Nat)
    : Poll Standby (Except MasterError Unit) × Delay × Master → Answer × Bench
  | (.ready outcome, delay, master) =>
    (⟨.ofMaster (fun _ => .done) outcome, some delay, none⟩, { bench with master })
  | (.pending rest, delay, master) =>
    (⟨.pending, some delay, none⟩, { bench with master }.keep (.standby rest delay) number)

def settleBringUp (bench : Bench) (index : Nat) (number : Option Nat)
    : Poll BringUp (Except SensorError Unit) × Sensor × Delay × Master → Answer × Bench
  | (outcome, sensor, delay, master) =>
    let settled := { bench with master, sensors := bench.sensors.set index sensor }
    match outcome with
    | .ready outcome => (⟨.ofSensor (fun _ => .done) outcome, some delay, none⟩, settled)
    | .pending rest =>
      (⟨.pending, some delay, none⟩, settled.keep (.bringUp index rest delay) number)

/-- Poll a task that was taken out of the waiting ones. -/
def resume (bench : Bench) (number : Nat) : Task → Answer × Bench
  | .operation rest => bench.settleOperation (some number) (bench.master.resume rest)
  | .standby rest delay =>
    bench.settleStandby (some number) (bench.master.resumeStandby rest delay)
  | .bringUp index rest delay =>
    match bench.sensors[index]? with
    | none => (.ofResult .noSensor, bench)
    | some sensor =>
      bench.settleBringUp index (some number) (sensor.resumeBringUp rest delay bench.master)

/-! ### Peripherals -/

def withPeripheral (bench : Bench) (bus : BusId) (act : Peripheral → Result × Peripheral)
    : Answer × Bench :=
  match bench.master.peripheral? bus with
  | none => (.ofResult .noPeripheral, bench)
  | some peripheral =>
    let (result, next) := act peripheral
    (.ofResult result, { bench with master := bench.master.setPeripheral bus next })

/-- Let bytes arrive for the reception armed on a bus. -/
def deliver (bench : Bench) (bus : BusId) (data : List UInt8) : Answer × Bench :=
  match bench.master.peripheral? bus with
  | none => (.ofResult .noPeripheral, bench)
  | some peripheral =>
    match peripheral.deliver bench.master.memory data with
    | none => (.ofResult (.truth false), bench)
    | some (next, memory) =>
      (.ofResult (.truth true),
        { bench with master := { bench.master.setPeripheral bus next with memory } })

/-- Send out the transmission armed on a bus. -/
def drain (bench : Bench) (bus : BusId) : Answer × Bench :=
  bench.withPeripheral bus fun peripheral =>
    match peripheral.drain bench.master.memory with
    | none => (.sent none, peripheral)
    | some (data, next) => (.sent (some data), next)

/-! ### Sensors -/

def setSensor (bench : Bench) (index : Nat) (sensor : Sensor) : Bench :=
  { bench with sensors := bench.sensors.set index sensor }

/-- Putting back a sensor that did not change changes nothing. -/
theorem setSensor_self {bench : Bench} {index : Nat} {sensor : Sensor}
    (here : bench.sensors[index]? = some sensor)
    : bench.setSensor index sensor = bench := by
  obtain ⟨inside, rfl⟩ := List.getElem?_eq_some_iff.mp here
  rw [setSensor, List.set_getElem_self]

def stepSensor (bench : Bench) (index : Nat) (sensor : Sensor) : SensorAction → Answer × Bench
  | .register =>
    let (outcome, next, master) := sensor.register bench.master
    (.ofResult (.ofSensor .registered outcome), { bench with master }.setSensor index next)
  | .bringUp table schedule number =>
    (bench.vacate number).settleBringUp index number
      (sensor.startBringUp table (.new schedule) bench.master)
  | .enable =>
    let (outcome, next) := sensor.enable
    (.ofResult (.ofSensor (fun _ => .done) outcome), bench.setSensor index next)
  | .disable => (.ofResult .done, bench.setSensor index sensor.disable)
  | .dataReady =>
    (.ofResult .done, { bench with master := sensor.dataReady bench.master })
  | .decode temperature now =>
    let (reading, next) := sensor.decode bench.master temperature now
    (.ofResult (.decoded reading), bench.setSensor index next)

/-! ### Runs -/

/-- Let one action happen. -/
def step (bench : Bench) : Action → Answer × Bench
  | .configureAll => (.ofResult .done, { bench with master := bench.master.configureAll })
  | .register slave =>
    let (outcome, master) := bench.master.register slave
    (.ofResult (.ofMaster .registered outcome), { bench with master })
  | .tryTransfer request =>
    let (outcome, master) := bench.master.tryTransfer request
    (.ofResult (.ofMaster (fun _ => .done) outcome), { bench with master })
  | .start operation number =>
    (bench.vacate number).settleOperation number (bench.master.start operation)
  | .standby handle schedule number =>
    (bench.vacate number).settleStandby number
      (bench.master.startStandby handle (.new schedule))
  | .poll number =>
    match bench.task? number with
    | none => (.ofResult .noTask, bench)
    | some task => (bench.discard number).resume number task
  | .drop number => (.ofResult (.truth (bench.task? number).isSome), bench.discard number)
  | .complete bus stream =>
    let (notice, master) := bench.master.complete bus stream
    (⟨.done, none, notice⟩, { bench with master })
  | .advanceRing index =>
    match bench.sensors[index]? with
    | none => (.ofResult .noSensor, bench)
    | some sensor =>
      let memory := bench.master.memory.advanceRing sensor.ring
      (.ofResult .done, { bench with master := { bench.master with memory } })
  | .arrange bus arrangement =>
    bench.withPeripheral bus fun peripheral => (.done, peripheral.arrange arrangement)
  | .forget bus => bench.withPeripheral bus fun peripheral => (.done, peripheral.forget)
  | .deliver bus data => bench.deliver bus data
  | .drain bus => bench.drain bus
  | .raise bus stream =>
    bench.withPeripheral bus fun peripheral => (.done, peripheral.setCompleted stream true)
  | .manual bus access =>
    bench.withPeripheral bus fun peripheral => (access.apply peripheral).map .ofManual id
  | .sensor index action =>
    match bench.sensors[index]? with
    | none => (.ofResult .noSensor, bench)
    | some sensor => bench.stepSensor index sensor action

/-- Let actions happen one after the other, with an answer to each. -/
def run (bench : Bench) : List Action → List Answer × Bench
  | [] => ([], bench)
  | action :: rest =>
    let (answer, next) := bench.step action
    let (answers, last) := run next rest
    (answer :: answers, last)

end Bench

end TwoWire
