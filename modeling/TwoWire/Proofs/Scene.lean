import TwoWire.Bench
import TwoWire.Proofs.Trials

/-! What can happen to a master, one event at a time.

Each event changes at most one bus, and what it does to that bus is told by the bus, the table of
slaves and the trials that a probe on the bus has left. Every action on a bench is a sequence of
such events, so what every event keeps is kept by every run.
-/

namespace TwoWire

open WireFrame
open Magnetometer

/-- A master, and the number of trials left to the probe that owns a bus, for each bus that a
probe owns. The trials are known to the probes only, so they stand beside the master.
-/
structure Scene where
  master : Master
  trials : PerBus (Option Nat)

/-- Who wants an operation to be done. -/
inductive Origin where
  | client
  | bringUp
  /-- A sensor captures into its ring. -/
  | capture (ring : Nat)

/-- One thing that happens to a master. -/
inductive Scene.Event where
  | prepare (bus : BusId)
  | enter (slave : Slave)
  | serve (origin : Origin) (slave : Slave) (operation : Operation)
  | claim (slave : Slave) (handle : Handle)
  | pause (slave : Slave)
  | conclude (slave : Slave)
  | land (bus : BusId) (stream : Stream) (window : Window) (data : List UInt8)
  | close (bus : BusId) (slave : Slave) (handle : Handle)
  | advance (ring : Nat)
  | touch (bus : BusId)
  | forget (bus : BusId)

/-- The slave of an operation that takes a stream, since it moves two or more bytes. -/
def Operation.streams : Operation → List Handle
  | transfer request => if 2 ≤ request.window.length then [request.handle] else []
  | readByte .. | writeByte .. => []

namespace Scene.Event

/-- The slave whose stream is given its bus. -/
def streams : Scene.Event → List Handle
  | serve _ _ operation => operation.streams
  | _ => []

/-- The handle that is told about a completion, with the bus on which it happened. -/
def told? : Scene.Event → Option (BusId × Handle)
  | close bus _ handle => some (bus, handle)
  | _ => none

/-- The memory before and after an event. A capture reads into the slot at the cursor, and a
completion moves the ring of its slave on.
-/
def Remembers (before after : Memory) : Scene.Event → Prop
  | serve origin _ operation =>
    (∀ ring, origin = .capture ring
      → ∃ request : Request, operation = .transfer request
        ∧ request.kind = .read
        ∧ request.window = Sensor.captureWindow ring (before.ring ring).cursor)
    ∧ (after = before ∨ ∃ request value, operation = .transfer request
      ∧ request.window.length < 2 ∧ after = before.write request.window [value])
  | land _ .rx window data => after = before.write window data
  | close _ slave _ =>
    after = match slave.reaction with
      | .advanceRing ring => before.advanceRing ring
      | _ => before
  | advance ring => after = before.advanceRing ring
  | _ => after = before

end Scene.Event

/-- What an event does to the bus on which it happens, and to the trials left there. -/
inductive Bus.Turn (slaves : SlaveTable) (id : BusId) (bus : Bus) (left : Option Nat)
    : Scene.Event → Bus → Option Nat → Prop
  | prepare {peripheral} (here : bus.peripheral = some peripheral)
    (new : bus.configured = false)
    : Turn slaves id bus left (.prepare id)
        { bus with configured := true, peripheral := some peripheral.configure } left
  /-- A single byte is moved in one piece, and the bus is idle again. -/
  | serveByte {origin slave operation transaction peripheral after} {frame : WireFrame}
    (found : slaves.get? transaction.handle = some slave) (home : slave.bus = id)
    (free : bus.owner = none) (here : bus.peripheral = some peripheral)
    (single : transaction.isStream = false) (shape : frame.IsOf slave transaction)
    (said : peripheral.Says frame.commands after) (short : operation.streams = [])
    : Turn slaves id bus left (.serve origin slave operation)
        { bus with
          active := .empty
          served := bus.served ++ [transaction]
          peripheral := some after }
        left
  /-- A stream is armed, and the bus is kept for it. -/
  | serveStream {origin slave request peripheral after}
    (found : slaves.get? request.handle = some slave) (home : slave.bus = id)
    (free : bus.owner = none) (here : bus.peripheral = some peripheral)
    (long : 2 ≤ request.window.length)
    (opened : peripheral.Leaves
      (opening request.kind slave.address request.register request.window.length)
      { peripheral.streams with armed := some (request.kind.stream, request.window) } after)
    : Turn slaves id bus left (.serve origin slave (.transfer request))
        { bus with
          active := .store (some request.handle)
          served := bus.served
            ++ [.stream request.kind request.handle request.register request.window]
          peripheral := some after }
        left
  | claim {slave handle peripheral} (found : slaves.get? handle = some slave)
    (home : slave.bus = id) (free : bus.owner = none) (here : bus.peripheral = some peripheral)
    : Turn slaves id bus left (.claim slave handle)
        { bus with active := .store (some handle), served := bus.served ++ [.probe handle] }
        (some Standby.trials)
  /-- A probe makes trials and pauses when some are left. -/
  | pause {slave handle trials paused peripheral after}
    (found : slaves.get? handle = some slave) (home : slave.bus = id)
    (held : bus.owner = some handle) (budget : left = some trials)
    (here : bus.peripheral = some peripheral)
    (tried : peripheral.Tried slave.address trials (.pending paused) after)
    : Turn slaves id bus left (.pause slave) { bus with peripheral := some after }
        (some paused.trials)
  /-- A probe makes its last trials and gives the bus back. -/
  | conclude {slave handle trials acknowledged peripheral after}
    (found : slaves.get? handle = some slave) (home : slave.bus = id)
    (held : bus.owner = some handle) (budget : left = some trials)
    (here : bus.peripheral = some peripheral)
    (tried : peripheral.Tried slave.address trials (.ready acknowledged) after)
    : Turn slaves id bus left (.conclude slave)
        { bus with
          active := .empty
          peripheral := some (if acknowledged then after else after.stop) }
        none
  | land {stream window data peripheral} (here : bus.peripheral = some peripheral)
    (armed : peripheral.armed = some (stream, window))
    : Turn slaves id bus left (.land id stream window data)
        { bus with
          peripheral := some ({ peripheral with armed := none }.setCompleted stream true) }
        left
  | close {kind : TransferKind} {slave handle peripheral} (found : slaves.get? handle = some slave)
    (held : bus.owner = some handle) (here : bus.peripheral = some peripheral)
    (flag : peripheral.completed kind.stream = true)
    : Turn slaves id bus left (.close id slave handle)
        { bus with
          active := .empty
          peripheral := some ((peripheral.takeCompleted kind.stream).2.closeFrame kind.stream) }
        left
  | touch {peripheral after} (here : bus.peripheral = some peripheral)
    (silent : peripheral.Says [] after)
    : Turn slaves id bus left (.touch id) { bus with peripheral := some after } left
  | forget {peripheral} (here : bus.peripheral = some peripheral)
    : Turn slaves id bus left (.forget id) { bus with peripheral := some peripheral.forget } left

namespace Scene

/-- Replace one bus, the trials left there, and the memory. -/
def change (scene : Scene) (id : BusId) (bus : Bus) (left : Option Nat) (memory : Memory)
    : Scene :=
  ⟨{ scene.master.setBus id bus with memory }, scene.trials.set id left⟩

/-- One event. Apart from a new slave and a ring that moves by itself, it happens on one bus. -/
inductive Move (scene : Scene) : Event → Scene → Prop
  | turn {id event bus left memory}
    (turn : (scene.master.bus id).Turn scene.master.slaves id (scene.trials.get id) event bus left)
    (remembers : event.Remembers scene.master.memory memory)
    : Move scene event (scene.change id bus left memory)
  | enter {slave handle slaves peripheral}
    (here : scene.master.peripheral? slave.bus = some peripheral)
    (ready : (scene.master.bus slave.bus).configured = true)
    (accepted : scene.master.slaves.insert slave = .ok (handle, slaves))
    : Move scene (.enter slave) { scene with master := { scene.master with slaves } }
  | advance (ring : Nat)
    : Move scene (.advance ring)
        { scene with
          master := { scene.master with memory := scene.master.memory.advanceRing ring } }

/-- Events that happen one after the other. -/
inductive Moves : Scene → List Event → Scene → Prop
  | nil {scene} : Moves scene [] scene
  | cons {first event middle events last} (head : Move first event middle)
    (tail : Moves middle events last)
    : Moves first (event :: events) last

theorem Moves.single {scene next : Scene} {event : Event} (move : scene.Move event next)
    : scene.Moves [event] next :=
  .cons move .nil

theorem Moves.append {first middle last : Scene} {events more : List Event}
    (head : first.Moves events middle) (tail : middle.Moves more last)
    : first.Moves (events ++ more) last := by
  induction head with
  | nil => exact tail
  | cons move _ ih => exact .cons move (ih tail)

/-- What every event keeps is kept by events that follow each other, by induction over them. -/
theorem Moves.preserve {Holds : Scene → Prop} {allowed : Event → Prop}
    (step : ∀ {scene event next}, Holds scene → allowed event → scene.Move event next
      → Holds next)
    {first last : Scene} {events : List Event} (moves : first.Moves events last)
    (start : Holds first) (all : ∀ event ∈ events, allowed event)
    : Holds last := by
  induction moves with
  | nil => exact start
  | cons move _ ih =>
      exact ih (step start (all _ List.mem_cons_self) move)
        (fun event member => all event (List.mem_cons_of_mem _ member))

-----------------------------------------------------------------------------------------
-- Looking at a changed scene
-----------------------------------------------------------------------------------------

variable {scene : Scene} {id other : BusId} {bus : Bus} {left : Option Nat} {memory : Memory}

@[simp] theorem bus_change_self
    : (scene.change id bus left memory).master.bus id = bus := by
  simp [change, Master.bus, Master.setBus]

@[simp] theorem bus_change_of_ne (distinct : other ≠ id)
    : (scene.change id bus left memory).master.bus other = scene.master.bus other := by
  simp [change, Master.bus, Master.setBus, distinct]

@[simp] theorem trials_change_self
    : (scene.change id bus left memory).trials.get id = left := by
  simp [change]

@[simp] theorem trials_change_of_ne (distinct : other ≠ id)
    : (scene.change id bus left memory).trials.get other = scene.trials.get other := by
  simp [change, distinct]

@[simp] theorem slaves_change
    : (scene.change id bus left memory).master.slaves = scene.master.slaves := rfl

@[simp] theorem memory_change
    : (scene.change id bus left memory).master.memory = memory := rfl

end Scene

end TwoWire
