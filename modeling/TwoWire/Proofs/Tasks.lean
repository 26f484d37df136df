import TwoWire.Bench
import TwoWire.Proofs.Conduct
import TwoWire.Proofs.SensorConduct

/-! What a bench knows about its waiting tasks, its sensors and its slaves.

A task that waits knows its slave, and a probe that pauses owns its bus, which no other task does.
Events that happen elsewhere leave that as it is.
-/

namespace TwoWire

open Scene
open Magnetometer

-----------------------------------------------------------------------------------------
-- What events leave alone
-----------------------------------------------------------------------------------------

namespace Scene

/-- A probe claims this bus or makes trials on it. -/
def Event.ProbesOn (bus : BusId) : Event → Prop
  | claim slave _ | pause slave | conclude slave => slave.bus = bus
  | _ => False

variable {scene next : Scene} {event : Event} {events : List Event} {bus : BusId}
  {handle : Handle} {slave : Slave}

/-- A handle goes on standing for its slave, since the table only grows. -/
theorem Move.known (move : scene.Move event next)
    (found : scene.master.slaves.get? handle = some slave)
    : next.master.slaves.get? handle = some slave := by
  cases move with
  | turn | advance => exact found
  | enter _ _ accepted => exact SlaveTable.get?_of_insert accepted found

theorem Moves.known (moves : scene.Moves events next)
    (found : scene.master.slaves.get? handle = some slave)
    : next.master.slaves.get? handle = some slave := by
  induction moves with
  | nil => exact found
  | cons move _ ih => exact ih (move.known found)

/-- A slave of the table was there before or entered it, by induction over the events. -/
theorem Moves.known_or_entered (moves : scene.Moves events next)
    (found : next.master.slaves.get? handle = some slave)
    : scene.master.slaves.get? handle = some slave ∨ .enter slave ∈ events := by
  induction moves with
  | nil => exact .inl found
  | cons move _ ih =>
      rcases ih found with earlier | entered
      · cases move with
        | turn | advance => exact .inl earlier
        | enter _ _ accepted =>
            rcases SlaveTable.get?_insert_cases accepted earlier with old | ⟨-, rfl⟩
            · exact .inl old
            · exact .inr List.mem_cons_self
      · exact .inr (List.mem_cons_of_mem _ entered)

/-- The trials on a bus only change when a probe claims it or makes them. -/
theorem Move.trials_eq (move : scene.Move event next) (apart : ¬ event.ProbesOn bus)
    : next.trials.get bus = scene.trials.get bus := by
  cases move with
  | @turn id _ _ _ _ turn =>
      by_cases same : bus = id
      · subst same
        rw [trials_change_self]
        cases turn with
        | claim _ home | pause _ home | conclude _ home => exact absurd home apart
        | prepare | serveByte | serveStream | land | close | touch | forget => rfl
      · exact trials_change_of_ne same
  | enter | advance => rfl

theorem Moves.trials_eq (moves : scene.Moves events next)
    (apart : ∀ event ∈ events, ¬ event.ProbesOn bus)
    : next.trials.get bus = scene.trials.get bus := by
  induction moves with
  | nil => rfl
  | cons move _ ih =>
      exact (ih (fun event member => apart event (List.mem_cons_of_mem _ member))).trans
        (move.trials_eq (apart _ List.mem_cons_self))

/-- A bus with trials left keeps its owner until a probe makes them: it is not idle, so nothing is
served there, and its streams are quiet, so nothing is closed there.
-/
theorem Coherent.owner_eq {left : Nat} (coherent : scene.Coherent)
    (budget : scene.trials.get bus = some left) (move : scene.Move event next)
    (apart : ¬ event.ProbesOn bus)
    : (next.master.bus bus).owner = (scene.master.bus bus).owner := by
  have buses := coherent.buses bus
  rw [budget] at buses
  cases move with
  | @turn id _ _ _ _ turn =>
      by_cases same : bus = id
      · subst same
        rw [bus_change_self]
        cases turn with
        | claim _ home | pause _ home | conclude _ home => exact absurd home apart
        | serveByte _ _ free here | serveStream _ _ free here =>
            have idle := (buses.quiet_of_free free here).1
            simp at idle
        | close _ _ here flag =>
            have none := (buses.landed_of_completed here flag).1
            simp at none
        | prepare | land | touch | forget => rfl
      · rw [bus_change_of_ne same]
  | enter | advance => rfl

/-- A probe stays suspended while nothing is tried on its bus. -/
theorem Suspends.move {paused : Retry.Paused} (suspended : scene.Suspends slave paused)
    (coherent : scene.Coherent) (move : scene.Move event next)
    (apart : ¬ event.ProbesOn slave.bus)
    : next.Suspends slave paused := by
  obtain ⟨budget, handle, found, held⟩ := suspended
  exact ⟨(move.trials_eq apart).trans budget, handle, move.known found,
    (coherent.owner_eq budget move apart).trans held⟩

theorem Suspends.moves {paused : Retry.Paused} (suspended : scene.Suspends slave paused)
    (coherent : scene.Coherent) (moves : scene.Moves events next)
    (apart : ∀ event ∈ events, ¬ event.ProbesOn slave.bus)
    : next.Suspends slave paused := by
  induction moves with
  | nil => exact suspended
  | cons move _ ih =>
      exact ih (suspended.move coherent move (apart _ List.mem_cons_self))
        (coherent.move move)
        (fun event member => apart event (List.mem_cons_of_mem _ member))

end Scene

-----------------------------------------------------------------------------------------
-- Rules for clients, and what tasks and sensors know
-----------------------------------------------------------------------------------------

/-- What clients may ask for, and which slaves they may register. A slave that is told about a
completion asks as a client.
-/
structure ClientRules where
  operation : Operation → Prop
  slave : Slave → Prop
  asks : ∀ guest, slave guest → guest.reaction.Asks operation

/-- Clients may do anything. -/
def ClientRules.any : ClientRules where
  operation _ := True
  slave _ := True
  asks guest _ := by
    cases reaction : guest.reaction with
    | none | advanceRing => exact True.intro
    | call => exact fun _ _ _ _ => True.intro

namespace Task

/-- The bus that a task owns while it waits, which only a probe between two trials does. -/
def holds? : Task → Option BusId
  | .standby (.pausing slave _) _ => some slave.bus
  | _ => none

/-- What a waiting task knows is so. -/
def Sound (rules : ClientRules) (scene : Scene) : Task → Prop
  | .operation rest => rules.operation rest.operation ∧ scene.master.Knows rest
  | .standby (.claiming handle slave) _ => scene.master.slaves.get? handle = some slave
  | .standby (.pausing slave paused) _ => scene.Suspends slave paused
  | .bringUp _ rest _ =>
    ∀ claiming, rest.wait = .bus claiming
      → claiming.operation.IsSingle ∧ scene.master.Knows claiming

/-- What a task knows stays so while nothing is tried on the bus that it owns. -/
theorem Sound.moves {rules : ClientRules} {scene next : Scene} {events : List Scene.Event}
    {task : Task} (sound : task.Sound rules scene) (coherent : scene.Coherent)
    (moves : scene.Moves events next)
    (apart : ∀ bus, task.holds? = some bus → ∀ event ∈ events, ¬ event.ProbesOn bus)
    : task.Sound rules next := by
  cases task with
  | operation rest => exact ⟨sound.1, moves.known sound.2⟩
  | standby rest delay =>
      cases rest with
      | claiming handle slave => exact moves.known sound
      | pausing slave paused => exact Suspends.moves sound coherent moves (apart slave.bus rfl)
  | bringUp index rest delay =>
      intro claiming same
      obtain ⟨single, known⟩ := sound claiming same
      exact ⟨single, moves.known known⟩

end Task

/-- A sensor without a handle was not registered, and its handle stands for itself. -/
structure Magnetometer.Sensor.Homed (slaves : SlaveTable) (sensor : Sensor) : Prop where
  fresh : sensor.state = .uninitialized → sensor.handle.load = none
  known
    : ∀ handle, sensor.handle.load = some handle → slaves.get? handle = some sensor.slave

namespace Bench

/-- The bookkeeping of a bench beside its master. The trials are those that the probes have left
on the buses that they own.
-/
structure Tracks (rules : ClientRules) (trials : PerBus (Option Nat)) (bench : Bench)
    : Prop where
  coherent : Scene.Coherent ⟨bench.master, trials⟩
  tasks : ∀ entry ∈ bench.tasks, entry.2.Sound rules ⟨bench.master, trials⟩
  apart
    : bench.tasks.Pairwise fun first second =>
        first.1 ≠ second.1
        ∧ ∀ bus, first.2.holds? = some bus → second.2.holds? ≠ some bus
  sensors : ∀ sensor ∈ bench.sensors, sensor.Homed bench.master.slaves
  entries
    : ∀ {handle slave},
        bench.master.slaves.get? handle = some slave
        → rules.slave slave
          ∨ ∃ sensor ∈ bench.sensors, sensor.handle.load = some handle ∧ sensor.slave = slave

/-- Every probe that owns a bus still waits to be polled. -/
def Attends (trials : PerBus (Option Nat)) (bench : Bench) : Prop :=
  ∀ bus left, trials.get bus = some left → ∃ entry ∈ bench.tasks, entry.2.holds? = some bus

variable {rules : ClientRules} {trials left : PerBus (Option Nat)} {bench : Bench}

/-- Events that no probe causes leave the bookkeeping alone, if the slaves that enter the table
are ones that clients may register.
-/
theorem Tracks.after (tracks : bench.Tracks rules trials) {master : Master}
    {events : List Scene.Event}
    (moves : Scene.Moves ⟨bench.master, trials⟩ events ⟨master, left⟩)
    (apart
      : ∀ entry ∈ bench.tasks, ∀ bus, entry.2.holds? = some bus
        → ∀ event ∈ events, ¬ event.ProbesOn bus)
    (entered : ∀ slave, .enter slave ∈ events → rules.slave slave)
    : { bench with master }.Tracks rules left where
  coherent := tracks.coherent.moves moves
  tasks entry member :=
    (tracks.tasks entry member).moves tracks.coherent moves (apart entry member)
  apart := tracks.apart
  sensors sensor member :=
    have homed := tracks.sensors sensor member
    ⟨homed.fresh, fun handle place => moves.known (homed.known handle place)⟩
  entries found := by
    rcases moves.known_or_entered found with old | new
    · exact tracks.entries old
    · exact .inl (entered _ new)

theorem Tracks.discard (tracks : bench.Tracks rules trials) (number : Nat)
    : (bench.discard number).Tracks rules trials where
  coherent := tracks.coherent
  tasks entry member := tracks.tasks entry (List.mem_filter.mp member).1
  apart := tracks.apart.filter _
  sensors := tracks.sensors
  entries := tracks.entries

theorem Tracks.vacate (tracks : bench.Tracks rules trials) (number : Option Nat)
    : (bench.vacate number).Tracks rules trials := by
  cases number with
  | none => exact tracks
  | some number => exact tracks.discard number

/-- A task that waits can be kept under a free number, if it knows what it must and no other task
owns its bus.
-/
theorem Tracks.keep (tracks : bench.Tracks rules trials) {task : Task} {number : Option Nat}
    (free : ∀ entry ∈ bench.tasks, number ≠ some entry.1)
    (sound : task.Sound rules ⟨bench.master, trials⟩)
    (alone
      : ∀ bus, task.holds? = some bus → ∀ entry ∈ bench.tasks, entry.2.holds? ≠ some bus)
    : (bench.keep task number).Tracks rules trials := by
  cases number with
  | none => exact tracks
  | some number =>
      refine ⟨tracks.coherent, ?_, ?_, tracks.sensors, tracks.entries⟩
      · intro entry member
        rcases List.mem_cons.mp member with rfl | old
        · exact sound
        · exact tracks.tasks entry old
      · refine List.pairwise_cons.mpr ⟨?_, tracks.apart⟩
        intro entry member
        exact ⟨fun same => free entry member (congrArg some same),
          fun bus holds => alone bus holds entry member⟩

/-- A sensor can change together with the master as long as it stays the same slave and keeps its
handle, if a slave that enters the table is the sensor itself.
-/
theorem Tracks.setSensor (tracks : bench.Tracks rules trials) {index : Nat}
    {sensor after : Sensor} {master : Master} {events : List Scene.Event}
    (here : bench.sensors[index]? = some sensor)
    (moves : Scene.Moves ⟨bench.master, trials⟩ events ⟨master, left⟩)
    (apart : ∀ bus, ∀ event ∈ events, ¬ event.ProbesOn bus)
    (same : after.slave = sensor.slave)
    (keeps : ∀ handle, sensor.handle.load = some handle → after.handle.load = some handle)
    (homed : after.Homed master.slaves)
    (entered
      : ∀ handle slave, master.slaves.get? handle = some slave
        → bench.master.slaves.get? handle = some slave
          ∨ (after.handle.load = some handle ∧ after.slave = slave))
    : ({ bench with master }.setSensor index after).Tracks rules left := by
  obtain ⟨inside, rfl⟩ := List.getElem?_eq_some_iff.mp here
  refine ⟨tracks.coherent.moves moves, ?_, tracks.apart, ?_, ?_⟩
  · intro entry member
    exact (tracks.tasks entry member).moves tracks.coherent moves (fun bus _ => apart bus)
  · intro current member
    rcases List.mem_or_eq_of_mem_set member with old | rfl
    · have homed := tracks.sensors current old
      exact ⟨homed.fresh, fun handle place => moves.known (homed.known handle place)⟩
    · exact homed
  · intro handle slave found
    rcases entered handle slave found with old | ⟨place, rfl⟩
    · rcases tracks.entries old with guest | ⟨current, member, place, rfl⟩
      · exact .inl guest
      · obtain ⟨position, within, rfl⟩ := List.mem_iff_getElem.mp member
        by_cases chosen : index = position
        · subst chosen
          exact .inr ⟨after, List.mem_set inside after, keeps handle place, same⟩
        · have kept
              : (bench.sensors.set index after)[position]? = some bench.sensors[position] := by
            rw [List.getElem?_set_ne chosen, List.getElem?_eq_getElem within]
          exact .inr ⟨_, List.mem_of_getElem? kept, place, rfl⟩
    · exact .inr ⟨after, List.mem_set inside after, place, rfl⟩

/-- An entry is found under its number if no two numbers are the same, by induction over the
entries.
-/
theorem lookup_of_mem {tasks : List (Nat × Task)}
    (distinct : tasks.Pairwise fun first second => first.1 ≠ second.1) {entry : Nat × Task}
    (member : entry ∈ tasks)
    : tasks.lookup entry.1 = some entry.2 := by
  induction tasks with
  | nil => simp at member
  | cons head rest ih =>
      obtain ⟨number, task⟩ := head
      obtain ⟨first, later⟩ := List.pairwise_cons.mp distinct
      rcases List.mem_cons.mp member with rfl | old
      · simp
      · have other : (entry.1 == number) = false := by
          simpa using fun same => first entry old same.symm
        rw [List.lookup_cons, other]
        exact ih later old

theorem Tracks.task?_of_mem (tracks : bench.Tracks rules trials) {entry : Nat × Task}
    (member : entry ∈ bench.tasks)
    : bench.task? entry.1 = some entry.2 :=
  lookup_of_mem (tracks.apart.imp And.left) member

/-- After room was made the number is free. -/
theorem free_vacate (bench : Bench) (number : Option Nat)
    : ∀ entry ∈ (bench.vacate number).tasks, number ≠ some entry.1 := by
  cases number with
  | none => simp
  | some number =>
      intro entry member same
      obtain rfl := Option.some.inj same
      simpa using (List.mem_filter.mp member).2

/-- The buses are still attended if the task that goes owned none. -/
theorem Attends.discard (attends : bench.Attends trials) (tracks : bench.Tracks rules trials)
    {number : Nat} (idle : ∀ task, bench.task? number = some task → task.holds? = none)
    : (bench.discard number).Attends trials := by
  intro bus left budget
  obtain ⟨entry, member, holds⟩ := attends bus left budget
  refine ⟨entry, List.mem_filter.mpr ⟨member, ?_⟩, holds⟩
  have kept : entry.1 ≠ number := by
    intro equal
    subst equal
    rw [idle entry.2 (tracks.task?_of_mem member)] at holds
    simp at holds
  simpa using kept

theorem Attends.vacate (attends : bench.Attends trials) (tracks : bench.Tracks rules trials)
    {number : Option Nat}
    (idle : ∀ task, number.bind bench.task? = some task → task.holds? = none)
    : (bench.vacate number).Attends trials := by
  cases number with
  | none => exact attends
  | some number => exact attends.discard tracks idle

theorem Attends.keep (attends : bench.Attends trials) (task : Task) (number : Option Nat)
    : (bench.keep task number).Attends trials := by
  cases number with
  | none => exact attends
  | some number =>
      intro bus left budget
      obtain ⟨entry, member, holds⟩ := attends bus left budget
      exact ⟨entry, List.mem_cons_of_mem _ member, holds⟩

end Bench

end TwoWire
