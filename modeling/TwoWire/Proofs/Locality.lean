import TwoWire.Proofs.Occupancy
import TwoWire.Proofs.Places
import TwoWire.Proofs.Refusals

/-! What is done on one bus keeps to that bus and to the part of the memory that it is given.

Keeping to it has two sides. Nothing beyond is changed, and nothing beyond is looked at: on another
master that agrees there the answer is the same, and so is what is left behind. Two things that
keep to different buses and to separate parts of the memory can therefore be done in either order.
-/

namespace TwoWire

/-- The request goes to a slave of this bus, if to any, and moves bytes of this part of the
memory.
-/
structure Request.StaysOn (slaves : SlaveTable) (id : BusId) (area : Set Place)
    (request : Request)
    : Prop where
  home : ∀ slave, slaves.get? request.handle = some slave → slave.bus = id
  inside : request.window.places ⊆ area

/-- The operation moves no bytes but of this part of the memory. -/
def Operation.Inside (area : Set Place) : Operation → Prop
  | transfer request => request.window.places ⊆ area
  | readByte .. | writeByte .. => True

/-- A slave that is told moves on a ring of this part of the memory, or its client looks at no more
than this bus and this part of the memory and asks for transfers there.
-/
inductive Reaction.StaysOn (slaves : SlaveTable) (id : BusId) (area : Set Place)
    : Reaction → Prop
  | none : StaysOn slaves id area .none
  | advanceRing {index} (inside : .cursor index ∈ area)
    : StaysOn slaves id area (.advanceRing index)
  | call {tag requests}
    (looks
      : ∀ buses others memory elsewhere, PerBus.get others id = PerBus.get buses id
        → Memory.Agrees area memory elsewhere
        → requests others elsewhere = requests buses memory)
    (asks
      : ∀ buses memory, ∀ request ∈ requests buses memory,
          Request.StaysOn slaves id area request)
    : StaysOn slaves id area (.call tag requests)

namespace Master

/-- Two masters with the same slaves that agree on one bus and in a part of the memory. -/
structure Alike (id : BusId) (area : Set Place) (master other : Master) : Prop where
  slaves : other.slaves = master.slaves
  bus : other.bus id = master.bus id
  memory : master.memory.Agrees area other.memory

/-- But for one bus and a part of the memory nothing is different. -/
structure Spares (id : BusId) (area : Set Place) (master next : Master) : Prop where
  slaves : next.slaves = master.slaves
  buses : ∀ other, other ≠ id → next.bus other = master.bus other
  memory : master.memory.Spares area next.memory

/-- Two outcomes on masters that are alike: they are answered alike, they stay alike, and the second
master is spared beyond.
-/
structure Twin {α : Type} (id : BusId) (area : Set Place) (other : Master)
    (outcome twin : α × Master)
    : Prop where
  answer : twin.1 = outcome.1
  alike : outcome.2.Alike id area twin.2
  spares : other.Spares id area twin.2

/-- What is done with a master keeps to one bus and to a part of the memory: it goes the same way on
every master that is alike there.
-/
def KeepsTo {α : Type} (id : BusId) (area : Set Place) (act : Master → α × Master)
    (master : Master)
    : Prop :=
  ∀ other, master.Alike id area other → Twin id area other (act master) (act other)

variable {α β : Type} {id home : BusId} {area elsewhere : Set Place}
  {master other middle next : Master} {act : Master → α × Master}

theorem Alike.refl (id : BusId) (area : Set Place) (master : Master)
    : master.Alike id area master :=
  ⟨rfl, rfl, fun place _ => .refl _ place⟩

theorem Spares.refl (id : BusId) (area : Set Place) (master : Master)
    : master.Spares id area master :=
  ⟨rfl, fun _ _ => rfl, .refl _ _⟩

theorem Spares.trans (head : Spares id area master middle) (tail : Spares id area middle next)
    : master.Spares id area next where
  slaves := tail.slaves.trans head.slaves
  buses bus apart := (tail.buses bus apart).trans (head.buses bus apart)
  memory := head.memory.trans tail.memory

theorem Alike.peripheral (alike : Alike id area master other)
    : other.peripheral? id = master.peripheral? id :=
  congrArg Bus.peripheral alike.bus

/-- What is spared but on one bus stays alike on another one. -/
theorem Spares.alike (spares : Spares id area master next) (distinct : home ≠ id)
    (apart : Disjoint area elsewhere)
    : master.Alike home elsewhere next where
  slaves := spares.slaves
  bus := spares.buses home distinct
  memory := spares.memory.agrees apart

theorem KeepsTo.spares (keeps : KeepsTo id area act master)
    : master.Spares id area (act master).2 :=
  (keeps master (.refl id area master)).spares

/-- Nothing is done, whatever is answered. -/
theorem twin_idle (alike : Alike id area master other) (answer : α)
    : Twin id area other (answer, master) (answer, other) :=
  ⟨rfl, alike, .refl id area other⟩

/-- The same bus takes the place of the one on which both agree, and both memories change in the
same way.
-/
theorem twin_setBus {memory otherMemory : Memory} (alike : Alike id area master other)
    (agrees : Memory.Agrees area memory otherMemory)
    (spares : other.memory.Spares area otherMemory) (answer : α) (bus : Bus)
    : Twin id area other (answer, { master.setBus id bus with memory })
        (answer, { other.setBus id bus with memory := otherMemory }) where
  answer := rfl
  alike := ⟨alike.slaves, by simp [Master.bus, setBus], agrees⟩
  spares := ⟨rfl, fun home apart => by simp [Master.bus, setBus, apart], spares⟩

/-- Only the bus changes, and its new state depends on nothing that differs. -/
theorem twin_bus (alike : Alike id area master other) (answer : α) (bus : Bus)
    : Twin id area other (answer, master.setBus id bus) (answer, other.setBus id bus) :=
  twin_setBus alike alike.memory (.refl area other.memory) answer bus

/-- What is done next keeps to the same bus, so both together do. -/
theorem Twin.trans {outcome twin : α × Master} (same : Twin id area other outcome twin)
    {andThen : Master → β × Master} (keeps : KeepsTo id area andThen outcome.2)
    : Twin id area other (andThen outcome.2) (andThen twin.2) := by
  obtain ⟨answer, alike, spares⟩ := keeps twin.2 same.alike
  exact ⟨answer, alike, same.spares.trans spares⟩

-----------------------------------------------------------------------------------------
-- Either order
-----------------------------------------------------------------------------------------

/-- Masters are equal that agree everywhere. -/
theorem eq_of_alike (slaves : other.slaves = master.slaves)
    (buses : ∀ id, other.bus id = master.bus id)
    (shape : master.memory.Spares Set.univ other.memory)
    (places : ∀ place, master.memory.SameAt other.memory place)
    : other = master := by
  have sameBuses : other.buses = master.buses := PerBus.ext_get buses
  have sameMemory : master.memory = other.memory :=
    Memory.eq_of_sameAt shape.buffers.symm shape.rings.symm places
  cases master
  cases other
  rw [mk.injEq]
  exact ⟨slaves, sameBuses, sameMemory.symm⟩

/-- What keeps to different buses and to separate parts of the memory is answered as if the other
had not been done, and leaves the same behind in either order.

The bus and the places of each are compared with what it leaves behind when it is done alone, all
the others with what was there before both.
-/
theorem KeepsTo.commute {turn : Master → β × Master} (keeps : KeepsTo id area act master)
    (turns : KeepsTo home elsewhere turn master) (distinct : id ≠ home)
    (apart : Disjoint area elsewhere)
    : (turn (act master).2).1 = (turn master).1
      ∧ (act (turn master).2).1 = (act master).1
      ∧ (turn (act master).2).2 = (act (turn master).2).2 := by
  have first := keeps _ (turns.spares.alike distinct apart.symm)
  have second := turns _ (keeps.spares.alike distinct.symm apart)
  refine ⟨second.answer, first.answer, eq_of_alike ?_ (fun bus => ?_) ?_ (fun place => ?_)⟩
  · rw [second.spares.slaves, first.spares.slaves, keeps.spares.slaves, turns.spares.slaves]
  · by_cases own : bus = id
    · subst own
      rw [second.spares.buses bus distinct, first.alike.bus]
    · by_cases theirs : bus = home
      · subst theirs
        rw [second.alike.bus, first.spares.buses bus own]
      · rw [second.spares.buses bus theirs, first.spares.buses bus own,
          keeps.spares.buses bus own, turns.spares.buses bus theirs]
  · constructor
    · rw [second.spares.memory.buffers, first.spares.memory.buffers,
        keeps.spares.memory.buffers, turns.spares.memory.buffers]
    · rw [second.spares.memory.rings, first.spares.memory.rings, keeps.spares.memory.rings,
        turns.spares.memory.rings]
    · exact fun place outside => absurd (Set.mem_univ place) outside
  · by_cases own : place ∈ area
    · have kept := second.spares.memory.places place (Set.disjoint_left.mp apart own)
      exact (first.alike.memory place own).symm.trans kept
    · by_cases theirs : place ∈ elsewhere
      · exact (first.spares.memory.places place own).symm.trans
          (second.alike.memory place theirs)
      · have before := (turns.spares.memory.places place theirs).trans
          (first.spares.memory.places place own)
        exact before.symm.trans ((keeps.spares.memory.places place own).trans
          (second.spares.memory.places place theirs))

-----------------------------------------------------------------------------------------
-- Operations
-----------------------------------------------------------------------------------------

/-- A slave of the bus is resolved alike, since its peripheral is that of the bus. -/
theorem Alike.resolve (alike : Alike id area master other) {handle : Handle}
    (here : ∀ slave, master.slaves.get? handle = some slave → slave.bus = id)
    : other.resolve handle = master.resolve handle := by
  unfold Master.resolve
  rw [alike.slaves]
  cases found : master.slaves.get? handle with
  | none => rfl
  | some slave =>
      obtain rfl := here slave found
      dsimp only
      rw [alike.peripheral]

/-- What an operation does on the wire depends on the bytes of its window. -/
theorem transaction_congr {memory otherMemory : Memory} {operation : Operation}
    (inside : operation.Inside area) (agrees : memory.Agrees area otherMemory)
    : operation.transaction otherMemory = operation.transaction memory := by
  cases operation with
  | transfer request =>
      have inside : request.window.places ⊆ area := inside
      simp only [Operation.transaction, Request.transaction, Memory.first_congr agrees inside]
  | readByte | writeByte => rfl

/-- Operations are driven alike over memories that agree, and change no more than their window, by
cases on what is moved.
-/
theorem drive_congr {memory otherMemory : Memory} {operation : Operation}
    (inside : operation.Inside area) (agrees : memory.Agrees area otherMemory)
    (address : UInt8) (peripheral : Peripheral)
    : ∃ reply after next otherNext,
        operation.drive address peripheral memory = (reply, after, next)
        ∧ operation.drive address peripheral otherMemory = (reply, after, otherNext)
        ∧ Memory.Agrees area next otherNext
        ∧ otherMemory.Spares area otherNext := by
  have spared := Memory.Spares.refl area otherMemory
  cases operation with
  | transfer request =>
      obtain ⟨kind, handle, register, window⟩ := request
      have inside : window.places ⊆ area := inside
      have first := Memory.first_congr agrees inside
      cases kind with
      | read =>
          simp only [Operation.drive]
          split
          · exact ⟨_, _, _, _, rfl, rfl, agrees, spared⟩
          · exact ⟨_, _, _, _, rfl, rfl, Memory.agrees_write agrees window _,
              otherMemory.spares_write inside _⟩
      | write =>
          simp only [Operation.drive, first]
          split
          · exact ⟨_, _, _, _, rfl, rfl, agrees, spared⟩
          · exact ⟨_, _, _, _, rfl, rfl, agrees, spared⟩
  | readByte | writeByte => exact ⟨_, _, _, _, rfl, rfl, agrees, spared⟩

/-- An attempt fails on both masters, or on both it leaves the same bus behind. -/
theorem Alike.attempt {slave : Slave} {operation : Operation}
    (alike : Alike slave.bus area master other) (inside : operation.Inside area)
    : master.attempt slave operation = none ∧ other.attempt slave operation = none
      ∨ ∃ reply bus memory otherMemory,
          master.attempt slave operation
            = some (reply, { master.setBus slave.bus bus with memory })
          ∧ other.attempt slave operation
            = some (reply, { other.setBus slave.bus bus with memory := otherMemory })
          ∧ Memory.Agrees area memory otherMemory
          ∧ other.memory.Spares area otherMemory := by
  have transaction := transaction_congr inside alike.memory
  simp only [Master.attempt, Option.bind_eq_bind, Option.pure_def, alike.bus, transaction]
  cases (master.bus slave.bus).claim (operation.transaction master.memory) with
  | none => exact .inl ⟨rfl, rfl⟩
  | some claimed =>
      cases here : claimed.peripheral with
      | none => exact .inl ⟨by simp [here], by simp [here]⟩
      | some peripheral =>
          obtain ⟨reply, after, next, otherNext, driven, otherDriven, memories⟩ :=
            drive_congr inside alike.memory slave.address peripheral
          simp only [Option.bind_some, here, driven, otherDriven]
          exact .inr ⟨_, _, _, _, rfl, rfl, memories⟩

/-- A transfer that does not wait keeps to the bus of its slave. -/
theorem keepsTo_tryTransfer {request : Request}
    (stays : request.StaysOn master.slaves id area)
    : KeepsTo id area (·.tryTransfer request) master := by
  intro other alike
  simp only [tryTransfer, alike.resolve stays.home]
  cases resolved : master.resolve request.handle with
  | error cause => exact twin_idle alike _
  | ok slave =>
      obtain rfl := stays.home slave (get?_of_resolve resolved).1
      dsimp only
      split
      · exact twin_idle alike _
      · have inside : (Operation.transfer request).Inside area := stays.inside
        rcases alike.attempt inside with ⟨failed, fails⟩ | ⟨_, bus, _, _, served, serves, rest⟩
        · simp only [failed, fails]
          exact twin_idle alike _
        · simp only [served, serves]
          exact twin_setBus alike rest.1 rest.2 _ bus

/-- Transfers that do not wait keep to their bus one after the other, by induction over them. -/
theorem keepsTo_tryTransfers {requests : List Request}
    (stays : ∀ request ∈ requests, request.StaysOn master.slaves id area)
    : KeepsTo id area (·.tryTransfers requests) master := by
  induction requests generalizing master with
  | nil => exact fun other alike => twin_idle alike []
  | cons request rest ih =>
      intro other alike
      have first := keepsTo_tryTransfer (stays request List.mem_cons_self)
      have same := first other alike
      have later := same.trans (ih (fun further member =>
        first.spares.slaves ▸ stays further (List.mem_cons_of_mem request member)))
      refine ⟨?_, later.alike, later.spares⟩
      simp only [tryTransfers, same.answer, later.answer]

/-- An operation that goes on keeps to the bus of its slave. -/
theorem keepsTo_resume (claiming : Claiming) (inside : claiming.operation.Inside area)
    : KeepsTo claiming.slave.bus area (·.resume claiming) master := by
  intro other alike
  rcases alike.attempt inside with ⟨failed, fails⟩ | ⟨reply, bus, _, _, served, serves, rest⟩
  · simp only [resume, failed, fails]
    exact twin_idle alike _
  · simp only [resume, served, serves]
    exact twin_setBus alike rest.1 rest.2 _ bus

/-- Once its slave is looked up, an operation that begins keeps to the bus as one that goes on. -/
theorem keepsTo_start {operation : Operation}
    (here : ∀ slave, master.slaves.get? operation.handle = some slave → slave.bus = id)
    (inside : operation.Inside area)
    : KeepsTo id area (·.start operation) master := by
  intro other alike
  have same := alike.resolve here
  cases resolved : master.resolve operation.handle with
  | error cause =>
      rw [resolved] at same
      simp only [start, resolved, same]
      exact twin_idle alike _
  | ok slave =>
      obtain rfl := here slave (get?_of_resolve resolved).1
      rw [resolved] at same
      cases filled : operation.isEmpty with
      | true =>
          simp only [start, resolved, same, filled, if_true]
          exact twin_idle alike _
      | false =>
          dsimp only
          rw [start_eq_resume resolved filled, start_eq_resume same filled]
          exact keepsTo_resume ⟨operation, slave⟩ inside other alike

-----------------------------------------------------------------------------------------
-- Standby probes
-----------------------------------------------------------------------------------------

/-- A probe does with a bus what it does with an equal one, whatever else differs. -/
structure Mirrors (id : BusId) (master other : Master)
    (outcome twin : Poll Standby (Except MasterError Unit) × Delay × Master)
    : Prop where
  answer : twin.1 = outcome.1
  delay : twin.2.1 = outcome.2.1
  bus
    : ∃ bus, outcome.2.2 = master.setBus id bus ∧ twin.2.2 = other.setBus id bus

/-- A probe that waits has done nothing. -/
theorem mirrors_idle (alike : Alike id area master other)
    (outcome : Poll Standby (Except MasterError Unit)) (delay : Delay)
    : Mirrors id master other (outcome, delay, master) (outcome, delay, other) :=
  ⟨rfl, rfl, master.bus id, (master.setBus_bus id).symm,
    alike.bus ▸ (other.setBus_bus id).symm⟩

theorem mirrors_settleStandby {slave : Slave} (same : other.bus slave.bus = master.bus slave.bus)
    (progress : Poll Retry.Paused Bool × Peripheral × Delay)
    : Mirrors slave.bus master other (master.settleStandby slave progress)
        (other.settleStandby slave progress) := by
  obtain ⟨outcome, after, delay⟩ := progress
  cases outcome with
  | pending paused => exact ⟨rfl, rfl, _, rfl, by simp [settleStandby, setPeripheral, same]⟩
  | ready acknowledged => exact ⟨rfl, rfl, _, rfl, by simp only [settleStandby, same]⟩

theorem mirrors_claimStandby {slave : Slave} (alike : Alike slave.bus area master other)
    (handle : Handle) (delay : Delay)
    : Mirrors slave.bus master other (master.claimStandby handle slave delay)
        (other.claimStandby handle slave delay) := by
  unfold claimStandby
  rw [alike.bus, alike.peripheral]
  split
  · rename_i bus peripheral _ _
    obtain ⟨answer, spent, left, first, second⟩ :=
      mirrors_settleStandby
        ((other.bus_setBus_self slave.bus bus).trans
          (master.bus_setBus_self slave.bus bus).symm)
        (Retry.run Standby.interval (·.probe slave.address) Standby.trials peripheral delay)
    refine ⟨answer, spent, left, ?_, ?_⟩
    · simpa [setBus] using first
    · simpa [setBus] using second
  · exact mirrors_idle alike _ delay

theorem mirrors_startStandby (alike : Alike id area master other) {handle : Handle}
    (here : ∀ slave, master.slaves.get? handle = some slave → slave.bus = id) (delay : Delay)
    : Mirrors id master other (master.startStandby handle delay)
        (other.startStandby handle delay) := by
  unfold startStandby
  rw [alike.resolve here]
  cases resolved : master.resolve handle with
  | error cause => exact mirrors_idle alike _ delay
  | ok slave =>
      obtain rfl := here slave (get?_of_resolve resolved).1
      exact mirrors_claimStandby alike handle delay

theorem mirrors_resumeStandby {rest : Standby} (alike : Alike rest.slave.bus area master other)
    (delay : Delay)
    : Mirrors rest.slave.bus master other (master.resumeStandby rest delay)
        (other.resumeStandby rest delay) := by
  cases rest with
  | claiming handle slave => exact mirrors_claimStandby alike handle delay
  | pausing slave paused =>
      have alike : Alike slave.bus area master other := alike
      simp only [resumeStandby, alike.peripheral]
      cases master.peripheral? slave.bus with
      | none => exact mirrors_idle alike _ delay
      | some peripheral => exact mirrors_settleStandby alike.bus _

-----------------------------------------------------------------------------------------
-- Completions
-----------------------------------------------------------------------------------------

/-- A slave that is told keeps to its bus if its client does. -/
theorem keepsTo_notify (master : Master) {slave : Slave}
    (stays : slave.reaction.StaysOn master.slaves slave.bus area) (handle : Handle)
    : KeepsTo slave.bus area (·.notify handle slave) master := by
  intro other alike
  simp only [notify, alike.bus]
  generalize slave.reaction = reaction at stays
  cases stays with
  | none => exact twin_idle alike _
  | advanceRing inside =>
      exact ⟨rfl, ⟨alike.slaves, alike.bus, Memory.agrees_advanceRing alike.memory _⟩, rfl,
        fun _ _ => rfl, other.memory.spares_advanceRing inside⟩
  | call looks asks =>
      simp only [looks master.buses other.buses master.memory other.memory alike.bus alike.memory]
      have same := keepsTo_tryTransfers (asks master.buses master.memory) other alike
      refine ⟨?_, same.alike, same.spares⟩
      rw [Notice.mk.injEq]
      exact ⟨rfl, rfl, rfl, rfl, same.answer⟩

/-- A completion that finds its bus idle tells nobody. -/
theorem complete_of_unowned {peripheral : Peripheral} {stream : Stream}
    (here : master.peripheral? id = some peripheral)
    (set : peripheral.completed stream = true) (free : (master.bus id).owner = none)
    : master.complete id stream = (none, master.freed id peripheral stream) := by
  have idle : (master.bus id).active.load = none := free
  simp [complete, freed, here, Peripheral.takeCompleted, set, Bus.release, HandleCell.take, idle]

/-- A completion keeps to its bus if the client of the slave that owns it does, and that slave lives
there.
-/
theorem keepsTo_complete
    (lodges : ∀ handle, (master.bus id).owner = some handle → master.Lodges id handle)
    (stays
      : ∀ handle slave, (master.bus id).owner = some handle
        → master.slaves.get? handle = some slave
        → slave.reaction.StaysOn master.slaves id area)
    (stream : Stream)
    : KeepsTo id area (·.complete id stream) master := by
  intro other alike
  have there := alike.peripheral
  cases here : master.peripheral? id with
  | none =>
      rw [here] at there
      simp only [complete, here, there]
      exact twin_idle alike none
  | some peripheral =>
      rw [here] at there
      cases flag : peripheral.completed stream with
      | false =>
          dsimp only
          rw [complete_of_unset here flag, complete_of_unset there flag, setPeripheral,
            setPeripheral, alike.bus]
          exact twin_bus alike none _
      | true =>
          have freed
              : Twin id area other ((), master.freed id peripheral stream)
                  ((), other.freed id peripheral stream) := by
            rw [Master.freed, Master.freed, alike.bus]
            exact twin_bus alike () _
          have owner := congrArg Bus.owner alike.bus
          cases held : (master.bus id).owner with
          | none =>
              rw [held] at owner
              dsimp only
              rw [complete_of_unowned here flag held, complete_of_unowned there flag owner]
              exact ⟨rfl, freed.alike, freed.spares⟩
          | some handle =>
              obtain ⟨slave, found, rfl⟩ := lodges handle held
              have known := alike.slaves ▸ found
              rw [held] at owner
              dsimp only
              rw [complete_of_set here flag held found, complete_of_set there flag owner known]
              have told := freed.trans ((master.freed slave.bus peripheral stream).keepsTo_notify
                (stays handle slave held found) handle)
              exact ⟨congrArg some told.answer, told.alike, told.spares⟩

end Master

end TwoWire
