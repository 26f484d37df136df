import Mathlib.Data.List.Nodup
import TwoWire.Proofs.Reservations
import TwoWire.Proofs.Runs

/-! Decoding never looks at memory that a transfer owns.

A transfer that is in flight reaches a ring only in the slot at its cursor, and while it is in
flight the bus of the sensor is busy. So the slot is left out of the average.
-/

namespace TwoWire

open Scene
open Magnetometer

/-- The operation moves no bytes of these rings. -/
def Operation.Outside (rings : List Nat) : Operation → Prop
  | .transfer request => ∀ ring ∈ rings, request.window.region ≠ .ring ring
  | .readByte .. | .writeByte .. => True

/-- Clients have no access to the memory of these rings, and no slave that they register moves one
of them on.
-/
def ClientRules.outside (rings : List Nat) : ClientRules where
  operation := Operation.Outside rings
  slave guest :=
    (∀ ring ∈ rings, guest.reaction ≠ .advanceRing ring)
    ∧ guest.reaction.Asks (Operation.Outside rings)
  asks _ guest := guest.2

/-- Clients have no access to the memory of these rings, but a slave that they register may move one
of them on.
-/
def ClientRules.apart (rings : List Nat) : ClientRules where
  operation := Operation.Outside rings
  slave guest := guest.reaction.Asks (Operation.Outside rings)
  asks _ guest := guest

/-- Clients keep away from these rings, transfer-complete flags are raised by the end of transfers
only, and a completion is signalled to a ring by the master only.
-/
def Action.Spares (rings : List Nat) (action : Action) : Prop :=
  action.Keeps (.outside rings) ∧ ∀ index, action ≠ .advanceRing index

/-- What clients cause leaves each of the rings to the sensor that feeds it, unless its completion
is signalled by hand.
-/
theorem Scene.Event.CausedBy.spares {rings : List Nat} {bench : Bench} {action : Action}
    {event : Scene.Event} {ring : Nat} (caused : event.CausedBy (.outside rings) bench action)
    (inside : ring ∈ rings)
    (apart
      : ∀ index sensor,
          action = .advanceRing index
          → bench.sensors[index]? = some sensor
          → sensor.ring ≠ ring)
    : event.Spares ring := by
  cases event with
  | serve origin slave operation =>
      cases origin with
      | client =>
          cases operation with
          | transfer => exact caused ring inside
          | readByte | writeByte => exact True.intro
      | bringUp =>
          have single : operation.IsSingle := caused
          cases single <;> exact True.intro
      | capture other =>
          obtain ⟨sensor, -, rfl, rfl⟩ := caused
          exact fun same => congrArg Reaction.advanceRing same
  | advance =>
      obtain ⟨index, sensor, same, here, rfl⟩ := caused
      exact apart index sensor same here
  | prepare | enter | claim | pause | conclude | land | close | touch | forget =>
      exact True.intro

namespace Bench

/-- A transfer of this window is armed on the bus, or it has completed and was not handled yet.
What a completed transfer has moved stands last in the ledger of its bus.
-/
def InFlight (bench : Bench) (id : BusId) (window : Window) : Prop :=
  ∃ peripheral,
    bench.master.peripheral? id = some peripheral
    ∧ ((∃ stream, peripheral.armed = some (stream, window))
      ∨ ∃ kind handle register,
          peripheral.completed kind.stream = true
          ∧ (bench.master.bus id).served.getLast?
            = some (.stream kind handle register window))

variable {rings : List Nat} {trials : PerBus (Option Nat)} {bench : Bench} {sensor : Sensor}
  {id : BusId} {window : Window} {slot : Fin 2}

/-- Either way the transfer owns its bus. -/
theorem InFlight.streams (inFlight : bench.InFlight id window)
    (coherent : Scene.Coherent ⟨bench.master, trials⟩)
    : ∃ handle, (bench.master.bus id).Streams handle window := by
  obtain ⟨peripheral, here, ⟨stream, armed⟩ | ⟨kind, handle, register, flag, last⟩⟩ := inFlight
  · obtain ⟨-, kind, handle, register, slave, -, held, -, -, last, -⟩ :=
      (coherent.buses id).running_of_armed here armed
    exact ⟨handle, held, kind, register, last⟩
  · obtain ⟨-, _, owner, _, _, _, -, held, -, -, noted, -⟩ :=
      (coherent.buses id).landed_of_completed here flag
    have same := Option.some.inj (last.symm.trans noted)
    obtain ⟨-, rfl, -, -⟩ := (Transaction.stream.injEq ..).mp same
    exact ⟨handle, held, kind, register, last⟩

/-- A slave that feeds one of the rings is a sensor, since clients register none. -/
theorem Tracks.sensor_of_feeds (tracks : bench.Tracks (.outside rings) trials) {ring : Nat}
    (inside : ring ∈ rings) {handle : Handle} {slave : Slave}
    (found : bench.master.slaves.get? handle = some slave)
    (feeds : slave.reaction = .advanceRing ring)
    : ∃ sensor ∈ bench.sensors,
        sensor.handle.load = some handle ∧ sensor.slave = slave ∧ sensor.ring = ring := by
  rcases tracks.entries found with guest | ⟨sensor, member, place, rfl⟩
  · exact absurd feeds (guest.1 ring inside)
  · exact ⟨sensor, member, place, rfl, Reaction.advanceRing.inj feeds⟩

/-- Sensors with rings of their own are fed under one handle each. -/
theorem Tracks.feedsOnce (tracks : bench.Tracks (.outside rings) trials)
    (distinct : (bench.sensors.map Sensor.ring).Nodup) {ring : Nat} (inside : ring ∈ rings)
    : bench.master.slaves.FeedsOnce ring := by
  intro first second one other found there feeds fed
  obtain ⟨sensor, member, place, -, own⟩ := tracks.sensor_of_feeds inside found feeds
  obtain ⟨rival, present, held, -, same⟩ := tracks.sensor_of_feeds inside there fed
  obtain rfl := List.inj_on_of_nodup_map distinct member present (own.trans same.symm)
  exact Option.some.inj (place.symm.trans held)

/-- Every ring belongs to one sensor, and its slots are reserved for captures by this sensor. -/
structure Reserves (rings : List Nat) (bench : Bench) : Prop where
  own : bench.sensors.map Sensor.ring = rings
  distinct : rings.Nodup
  reserved
    : ∃ trials,
        bench.Tracks (.outside rings) trials
        ∧ ∀ ring ∈ rings, Scene.Reserves ⟨bench.master, trials⟩ ring

theorem rings_of_slaves {sensors others : List Sensor}
    (same : sensors.map Sensor.slave = others.map Sensor.slave)
    : sensors.map Sensor.ring = others.map Sensor.ring := by
  have rings (sensors : List Sensor)
      : (sensors.map Sensor.slave).map Slave.reaction
        = (sensors.map Sensor.ring).map Reaction.advanceRing := by
    simp [Sensor.slave, Function.comp_def]
  have mapped := congrArg (List.map Slave.reaction) same
  rw [rings, rings] at mapped
  exact List.map_injective_iff.mpr (fun _ _ => Reaction.advanceRing.inj) mapped

/-- An action that spares the rings keeps them reserved, since the events that it causes do. -/
theorem Reserves.step (reserves : bench.Reserves rings) {action : Action}
    (spares : action.Spares rings)
    : (bench.step action).2.Reserves rings := by
  obtain ⟨own, distinct, trials, tracks, reserved⟩ := reserves
  obtain ⟨events, left, accounts, -⟩ := tracks.step spares.1
  have kept := (rings_of_slaves accounts.sensors).trans own
  refine ⟨kept, distinct, left, accounts.tracks, ?_⟩
  intro ring inside
  refine (reserved ring inside).moves tracks.coherent accounts.moves ?_
    (accounts.tracks.feedsOnce (kept ▸ distinct) inside)
  exact fun event member =>
    (accounts.causes event member).spares inside (fun index _ same => absurd same (spares.2 index))

theorem reserves_assemble {capacity : Fin 255} {paces : PerBus (Option Pace)}
    {buffers : List (List UInt8)} {sensors : List (Config × Nat)}
    (distinct : (sensors.map Prod.snd).Nodup)
    : (assemble capacity paces buffers sensors).Reserves (sensors.map Prod.snd) where
  own := by simp [assemble, Bench.new, Sensor.new, Function.comp_def]
  distinct := distinct
  reserved := by
    refine ⟨_, tracks_assemble capacity paces buffers sensors, ?_⟩
    intro ring inside id handle window streams
    have held := streams.held
    simp [assemble, Bench.new, Master.new, Master.bus, Bus.new, Bus.owner] at held

/-- A transfer in flight that reaches a slot of a sensor is a capture by this sensor into the slot
at the cursor.
-/
theorem Reserves.capture (reserves : bench.Reserves rings) (member : sensor ∈ bench.sensors)
    (inFlight : bench.InFlight id window) (reaches : window.Reaches sensor.ring slot)
    : slot = (bench.master.memory.ring sensor.ring).cursor
      ∧ sensor.config.bus = id
      ∧ ∃ handle,
          sensor.handle.load = some handle ∧ (bench.master.bus id).owner = some handle := by
  obtain ⟨rfl, distinct, trials, tracks, reserved⟩ := reserves
  have inside : sensor.ring ∈ bench.sensors.map Sensor.ring := List.mem_map_of_mem member
  obtain ⟨handle, streams⟩ := inFlight.streams tracks.coherent
  obtain ⟨rfl, slave, found, feeds⟩ :=
    reserved sensor.ring inside id handle window streams reaches.1
  obtain ⟨owner, present, place, rfl, same⟩ := tracks.sensor_of_feeds inside found feeds
  obtain rfl := List.inj_on_of_nodup_map distinct present member same
  obtain ⟨one, -, known, home, -⟩ := (tracks.coherent.buses id).owner_known streams.held
  obtain rfl := Option.some.inj (found.symm.trans known)
  exact ⟨Window.captureWindow_reaches_iff.mp reaches, home, handle, place, streams.held⟩

/-- No sensor decodes the slot at the cursor of a busy one: the sensor itself leaves it out, and
the others have rings of their own.
-/
theorem Reserves.decode_eq (reserves : bench.Reserves rings) (member : sensor ∈ bench.sensors)
    (busy : (bench.master.bus sensor.config.bus).isBusy = true)
    (atCursor : slot = (bench.master.memory.ring sensor.ring).cursor) {other : Sensor}
    (present : other ∈ bench.sensors) (data : List UInt8) (temperature : Float32) (now : Nat)
    : other.decode
        { bench.master with
          memory := bench.master.memory.write (.slot sensor.ring slot) data }
        temperature now
      = other.decode bench.master temperature now := by
  refine Sensor.decode_write ?_ data temperature now
  intro used member' reaches
  have target : Region.ring sensor.ring = .ring other.ring := reaches.1
  obtain rfl :=
    List.inj_on_of_nodup_map (reserves.own ▸ reserves.distinct) member present
      (Region.ring.inj target)
  rw [busy] at member'
  exact Sensor.ne_cursor_of_used member'
    ((Window.slot_reaches_iff.mp reaches).trans atCursor)

-----------------------------------------------------------------------------------------
-- Every run
-----------------------------------------------------------------------------------------

/-- In every run that spares the rings of the sensors, which are distinct, a transfer in flight
that reaches a slot of a sensor goes to the slot at the cursor. The bus of the sensor is busy with
the sensor itself, and whatever is written to that slot, decoding yields the same.
-/
theorem reserved_at_cursor {capacity : Fin 255} {paces : PerBus (Option Pace)}
    {buffers : List (List UInt8)} {sensors : List (Config × Nat)} {actions : List Action}
    (distinct : (sensors.map Prod.snd).Nodup)
    (follows
      : Follows (fun _ action => action.Spares (sensors.map Prod.snd))
          (assemble capacity paces buffers sensors) actions)
    {sensor : Sensor} {id : BusId} {window : Window} {slot : Fin 2}
    (member : sensor ∈ ((assemble capacity paces buffers sensors).run actions).2.sensors)
    (inFlight : ((assemble capacity paces buffers sensors).run actions).2.InFlight id window)
    (reaches : window.Reaches sensor.ring slot)
    : let bench := ((assemble capacity paces buffers sensors).run actions).2
      let bus := bench.master.bus sensor.config.bus
      slot = (bench.master.memory.ring sensor.ring).cursor
      ∧ sensor.config.bus = id
      ∧ bus.isBusy = true
      ∧ (∃ handle, sensor.handle.load = some handle ∧ bus.owner = some handle)
      ∧ ∀ other ∈ bench.sensors, ∀ data temperature now,
          other.decode
            { bench.master with
              memory := bench.master.memory.write (.slot sensor.ring slot) data }
            temperature now
          = other.decode bench.master temperature now := by
  have reserves :=
    follows.preserve (fun _ _ reserves spares => reserves.step spares)
      (reserves_assemble distinct)
  obtain ⟨atCursor, rfl, handle, place, held⟩ := reserves.capture member inFlight reaches
  have busy
      : (((assemble capacity paces buffers sensors).run actions).2.master.bus
          sensor.config.bus).isBusy = true := by
    rw [Bus.isBusy, HandleCell.isSome_eq]
    exact Option.isSome_of_eq_some held
  refine ⟨atCursor, rfl, busy, ⟨handle, place, held⟩, ?_⟩
  exact fun other present => reserves.decode_eq member busy atCursor present

/-- A capture has landed and was not handled when its sensor is switched off. The sensor beside it
has a ring of its own.
-/
theorem reserved_at_cursor_when_landed
    : let sensors : List (Config × Nat) :=
        [(.factory, 0), ({ Config.factory with address := 0x1D }, 1)]
      let actions : List Action :=
        [.sensor 0 .register, .sensor 1 .register, .arrange .i2c1 (.fallback identityCode),
          .sensor 0 (.bringUp ⟨.replicate 32 0⟩ false none), .sensor 0 .enable,
          .sensor 0 .dataReady, .deliver .i2c1 [0, 1, 0, 2, 0, 3], .sensor 0 .disable]
      ∃ sensor ∈ ((assemble 2 ⟨some .instant, none, none⟩ [] sensors).run actions).2.sensors,
        ((assemble 2 ⟨some .instant, none, none⟩ [] sensors).run actions).2.InFlight .i2c1
          (Sensor.captureWindow sensor.ring 0)
        ∧ sensor.config.bus = .i2c1
        ∧ ∃ handle,
            sensor.handle.load = some handle
            ∧ (((assemble 2 ⟨some .instant, none, none⟩ [] sensors).run
                actions).2.master.bus sensor.config.bus).owner
              = some handle := by
  intro sensors actions
  have follows
      : Follows (fun _ action => action.Spares (sensors.map Prod.snd))
          (assemble 2 ⟨some .instant, none, none⟩ [] sensors) actions :=
    ⟨⟨True.intro, by simp⟩, ⟨True.intro, by simp⟩, ⟨True.intro, by simp⟩,
      ⟨True.intro, by simp⟩, ⟨True.intro, by simp⟩, ⟨True.intro, by simp⟩,
      ⟨True.intro, by simp⟩, ⟨True.intro, by simp⟩, True.intro⟩
  have first
      : (((assemble 2 ⟨some .instant, none, none⟩ [] sensors).run
          actions).2.sensors[0]?).map Sensor.ring
        = some 0 := by
    decide +kernel
  obtain ⟨sensor, here, ring⟩ := Option.map_eq_some_iff.mp first
  have landed
      : (((assemble 2 ⟨some .instant, none, none⟩ [] sensors).run
          actions).2.master.peripheral? .i2c1).map Peripheral.rxComplete
        = some true := by
    decide +kernel
  obtain ⟨peripheral, present, flag⟩ := Option.map_eq_some_iff.mp landed
  have last
      : (((assemble 2 ⟨some .instant, none, none⟩ [] sensors).run
          actions).2.master.bus .i2c1).served.getLast?
        = some (.stream .read ⟨0⟩ Register.outXMsb.address (Sensor.captureWindow 0 0)) := by
    decide +kernel
  have member := List.mem_of_getElem? here
  have inFlight
      : ((assemble 2 ⟨some .instant, none, none⟩ [] sensors).run actions).2.InFlight .i2c1
          (Sensor.captureWindow sensor.ring 0) :=
    ⟨peripheral, present, .inr ⟨.read, ⟨0⟩, Register.outXMsb.address, flag, ring ▸ last⟩⟩
  obtain ⟨-, home, -, owned, -⟩ :=
    reserved_at_cursor (by decide) follows member inFlight
      (Window.captureWindow_reaches_iff.mpr rfl)
  exact ⟨sensor, member, inFlight, home, owned⟩

/-- That no other slave is registered with the ring of a sensor cannot be left out. Here one is, on
another bus, and while a capture of the sensor is armed a reception of that slave completes. The
master signals this to the ring, so the cursor leaves the slot that the capture reaches, and the
sensor decodes whatever is in it.
-/
theorem disturbed_by_another_registrant
    : let sensors : List (Config × Nat) := [({ Config.factory with gaussPerCount := 1 }, 0)]
      let actions : List Action :=
        [.sensor 0 .register, .register ⟨.i2c2, 0x0E, .advanceRing 0⟩,
          .arrange .i2c1 (.fallback identityCode),
          .sensor 0 (.bringUp ⟨.replicate 32 0⟩ false none), .sensor 0 .enable,
          .sensor 0 .dataReady,
          .tryTransfer ⟨.read, ⟨1⟩, ⟨.bits8, 0x00⟩, ⟨.buffer 0, 0, 2⟩⟩,
          .deliver .i2c2 [0, 0], .complete .i2c2 .rx]
      let start := assemble 2 ⟨some .instant, some .instant, none⟩ [[0, 0]] sensors
      let bench := (start.run actions).2
      let decoded (data : List UInt8) :=
        (bench.sensors[0]?).bind fun sensor =>
          ((sensor.decode
            { bench.master with memory := bench.master.memory.write (.slot 0 0) data } 0 0).1).map
            fun reading => reading.raw.x
      (sensors.map Prod.snd).Nodup
      ∧ Follows (fun _ action => action.Keeps (.apart [0]) ∧ ∀ index, action ≠ .advanceRing index)
          start actions
      ∧ bench.sensors.map Sensor.ring = [0]
      ∧ bench.InFlight .i2c1 (Sensor.captureWindow 0 0)
      ∧ (bench.master.memory.ring 0).cursor = 1
      ∧ decoded [0, 0, 0, 0, 0, 0] = some 0
      ∧ decoded [0, 100, 0, 0, 0, 0] = some 100 := by
  intro sensors actions start bench decoded
  have follows
      : Follows
          (fun _ action => action.Keeps (.apart [0]) ∧ ∀ index, action ≠ .advanceRing index)
          start actions :=
    ⟨⟨True.intro, by simp⟩, ⟨True.intro, by simp⟩, ⟨True.intro, by simp⟩,
      ⟨True.intro, by simp⟩, ⟨True.intro, by simp⟩, ⟨True.intro, by simp⟩,
      ⟨by simp [Action.Keeps, ClientRules.apart, Operation.Outside], by simp⟩,
      ⟨True.intro, by simp⟩, ⟨True.intro, by simp⟩, True.intro⟩
  have armed
      : (bench.master.peripheral? .i2c1).map Peripheral.armed
        = some (some (.rx, Sensor.captureWindow 0 0)) := by
    decide +kernel
  obtain ⟨peripheral, here, given⟩ := Option.map_eq_some_iff.mp armed
  exact ⟨by decide, follows, by decide +kernel, ⟨peripheral, here, .inl ⟨.rx, given⟩⟩,
    by decide +kernel, by decide +kernel, by decide +kernel⟩

end Bench

end TwoWire
