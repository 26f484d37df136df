import TwoWire.Proofs.Completions
import TwoWire.Proofs.Grounds

/-! The table of slaves over whole runs: what enters it, what is refused, and what its handles stand
for ever after.

Nothing is assumed about what is done on the bench. The entries of the table are the slaves that
were accepted, in their order, and the place of each is the handle that was answered.
-/

namespace TwoWire

open Magnetometer

/-- What a registration was answered, by the master or by a sensor. -/
def Result.registration? : Result → Option (Except MasterError Handle)
  | .registered handle => some (.ok handle)
  | .masterError cause | .sensorError (.master cause) => some (.error cause)
  | _ => none

/-- The handle of the slave with which an action wants to do something on its bus. -/
def Action.operand? : Action → Option Handle
  | .tryTransfer request => some request.handle
  | .start operation _ => some operation.handle
  | .standby handle _ _ => some handle
  | _ => none

-----------------------------------------------------------------------------------------
-- Slaves that are told
-----------------------------------------------------------------------------------------

namespace Master

variable {master : Master} {bus : BusId} {stream : Stream} {notice : Notice}

@[simp] theorem handle_notify (master : Master) (handle : Handle) (slave : Slave)
    : (master.notify handle slave).1.handle = handle := by
  unfold notify
  cases slave.reaction <;> rfl

/-- Somebody is told only when the flag of the stream was set, and that is the slave that owned the
bus.
-/
theorem cases_of_told (told : (master.complete bus stream).1 = some notice)
    : ∃ peripheral slave,
        master.peripheral? bus = some peripheral
        ∧ peripheral.completed stream = true
        ∧ (master.bus bus).owner = some notice.handle
        ∧ master.slaves.get? notice.handle = some slave := by
  cases here : master.peripheral? bus with
  | none => simp [complete, here] at told
  | some peripheral =>
      cases flag : peripheral.completed stream with
      | false => simp [complete_of_unset here flag] at told
      | true =>
          cases held : (master.bus bus).owner with
          | none =>
              have free : (master.bus bus).active.load = none := held
              simp [complete, here, Peripheral.takeCompleted, flag, Bus.release, HandleCell.take,
                free] at told
          | some handle =>
              have owner : (master.bus bus).active.load = some handle := held
              cases found : master.slaves.get? handle with
              | none =>
                  have unknown (state : Bus)
                      : (master.setBus bus state).slaves.get? handle = none := found
                  simp [complete, here, Peripheral.takeCompleted, flag, Bus.release,
                    HandleCell.take, owner, unknown] at told
              | some slave =>
                  rw [complete_of_set here flag held found] at told
                  obtain rfl : ((master.freed bus peripheral stream).notify handle slave).1
                      = notice := Option.some.inj told
                  rw [handle_notify]
                  exact ⟨peripheral, slave, rfl, flag, rfl, found⟩

/-- Whoever is told about a completion is the slave that the handle of the bus stands for, after
the bus was freed.
-/
theorem complete_of_told (told : (master.complete bus stream).1 = some notice)
    : ∃ peripheral slave,
        master.slaves.get? notice.handle = some slave
        ∧ (master.bus bus).owner = some notice.handle
        ∧ (some notice, (master.complete bus stream).2)
          = ((master.freed bus peripheral stream).notify notice.handle slave).map some id := by
  obtain ⟨peripheral, slave, here, flag, held, found⟩ := cases_of_told told
  have completed := complete_of_set here flag held found
  refine ⟨peripheral, slave, found, held, ?_⟩
  rw [← completed, ← told]

/-- A probe that made its trials fails for no other reason than that it gave up. -/
theorem settleStandby_error {slave : Slave} {cause : MasterError}
    {progress : Poll Retry.Paused Bool × Peripheral × Delay}
    (failed : (master.settleStandby slave progress).1 = .ready (.error cause))
    : cause = .standbyTimeout := by
  obtain ⟨outcome, after, delay⟩ := progress
  match outcome with
  | .pending _ | .ready true => simp [settleStandby] at failed
  | .ready false => simpa [settleStandby] using failed.symm

theorem claimStandby_error {handle : Handle} {slave : Slave} {delay : Delay}
    {cause : MasterError}
    (failed : (master.claimStandby handle slave delay).1 = .ready (.error cause))
    : cause = .standbyTimeout := by
  unfold claimStandby at failed
  split at failed
  · exact settleStandby_error failed
  · simp at failed

end Master

namespace Bench

-----------------------------------------------------------------------------------------
-- What enters the table
-----------------------------------------------------------------------------------------

/-- The slave that an action enters in the table, with the handle that is answered. -/
def enrols (bench : Bench) (action : Action) : Option (Handle × Slave) :=
  match (bench.step action).1.result with
  | .registered handle => (bench.registrant action).map (handle, ·)
  | _ => none

/-- The slaves that a run enters in the table, in their order. -/
def enrolments : Bench → List Action → List (Handle × Slave)
  | _, [] => []
  | bench, action :: rest =>
    (bench.enrols action).toList ++ (bench.step action).2.enrolments rest

variable {capacity : Fin 255} {present : BusId → Bool} {bench : Bench} {action : Action}
  {slave : Slave} {enrolled : List (Handle × Slave)}

/-- An action that asks to register a slave is answered by the master, maybe through a sensor. -/
theorem registration_of_registrant (asked : bench.registrant action = some slave)
    : (bench.step action).1.result.registration? = some (bench.master.register slave).1 := by
  cases action with
  | register other =>
      obtain rfl := Option.some.inj asked
      simp only [step]
      cases (bench.master.register other).1 <;> rfl
  | sensor index action =>
      cases action with
      | register =>
          simp only [registrant, Option.bind_eq_some_iff, Option.ite_none_right_eq_some,
            Option.some.injEq] at asked
          obtain ⟨sensor, here, new, rfl⟩ := asked
          simp only [step, here, stepSensor, Sensor.register, new, if_true]
          obtain ⟨outcome, master⟩ := bench.master.register sensor.slave
          cases outcome <;> rfl
      | bringUp | enable | disable | dataReady | decode => simp [registrant] at asked
  | _ => simp [registrant] at asked

/-- What is entered is what is admitted, under the next handle, and nothing else is. -/
theorem enrols_cases (bench : Bench) (action : Action)
    : (∃ slave,
        bench.registrant action = some slave
        ∧ bench.master.Admits slave
        ∧ bench.enrols action = some (.ofIndex bench.master.slaves.size, slave))
      ∨ bench.enrols action = none
        ∧ ∀ slave, bench.registrant action = some slave
          → ∃ cause, bench.master.Refuses slave cause := by
  cases asked : bench.registrant action with
  | none =>
      refine .inr ⟨?_, by simp⟩
      unfold enrols
      split <;> simp [asked]
  | some slave =>
      have answered := registration_of_registrant asked
      rcases bench.master.admits_or_refuses slave with admits | ⟨cause, refuses⟩
      · rw [admits.register.1] at answered
        refine .inl ⟨slave, rfl, admits, ?_⟩
        unfold enrols
        split
        · rename_i handle result
          rw [result] at answered
          obtain rfl := Except.ok.inj (Option.some.inj answered)
          rw [asked]
          rfl
        · rename_i other
          generalize (bench.step action).1.result = result at answered other
          cases result with
          | registered handle => exact absurd rfl (other handle)
          | sensorError cause => cases cause <;> simp [Result.registration?] at answered
          | _ => simp [Result.registration?] at answered
      · rw [refuses.register.1] at answered
        refine .inr ⟨?_, ?_⟩
        · unfold enrols
          split
          · rename_i handle result
            simp [result, Result.registration?] at answered
          · rfl
        · intro other same
          obtain rfl := Option.some.inj same
          exact ⟨cause, refuses⟩

/-- Every action adds to the table what it enters, and nothing else changes it. -/
theorem Grounded.slaves_step (grounded : bench.Grounded) (action : Action)
    : (bench.step action).2.master.slaves
        = { bench.master.slaves with
            entries :=
              bench.master.slaves.entries ++ (bench.enrols action).toList.map Prod.snd }
      ∧ ∀ id,
          ((bench.step action).2.master.peripheral? id).isSome
          = (bench.master.peripheral? id).isSome := by
  rcases bench.enrols_cases action with ⟨slave, asked, admits, enrols⟩ | ⟨none, refused⟩
  · obtain ⟨-, slaves, present⟩ := admits.register
    rw [(step_of_registrant asked).1, enrols]
    exact ⟨slaves, present⟩
  · have steady : bench.master.Steady (bench.step action).2.master := by
      cases asked : bench.registrant action with
      | none => exact (grounded.carries asked).steady
      | some slave =>
          obtain ⟨cause, refuses⟩ := refused slave asked
          rw [(step_of_registrant asked).1]
          exact refuses.register.2
    rw [steady.slaves, none]
    exact ⟨by simp, steady.present⟩

/-- The table has this many places and these buses, and the slaves entered it in this order under
handles that count from zero.
-/
structure Enrolled (capacity : Fin 255) (present : BusId → Bool) (bench : Bench)
    (enrolled : List (Handle × Slave))
    : Prop where
  grounded : bench.Grounded
  capacity : bench.master.slaves.capacity = capacity
  buses : ∀ id, (bench.master.peripheral? id).isSome = present id
  entries : bench.master.slaves.entries = enrolled.map Prod.snd
  handles : enrolled.map (fun entry => entry.1.index) = List.range enrolled.length

/-- The handle that is answered counts on, since the table has a place left. -/
theorem Enrolled.step (table : bench.Enrolled capacity present enrolled) (action : Action)
    : (bench.step action).2.Enrolled capacity present
        (enrolled ++ (bench.enrols action).toList) := by
  obtain ⟨slaves, buses⟩ := table.grounded.slaves_step action
  refine ⟨table.grounded.step action, ?_, ?_, ?_, ?_⟩
  · rw [slaves]
    exact table.capacity
  · exact fun id => (buses id).trans (table.buses id)
  · rw [slaves, List.map_append, table.entries]
  · rcases bench.enrols_cases action with ⟨slave, -, admits, enrols⟩ | ⟨none, -⟩
    · have size : bench.master.slaves.size = enrolled.length := by
        rw [SlaveTable.size, table.entries, List.length_map]
      have room : bench.master.slaves.size < bench.master.slaves.capacity :=
        Nat.lt_of_le_of_ne table.grounded.lawful.fits admits.room
      have next := Handle.index_ofIndex room
      rw [size] at next
      rw [enrols, List.map_append, table.handles, size]
      simp [next, List.range_succ]
    · simpa [none] using table.handles

/-- A run adds to the table what it enters, by induction over its actions. -/
theorem Enrolled.run (table : bench.Enrolled capacity present enrolled) (actions : List Action)
    : (bench.run actions).2.Enrolled capacity present
        (enrolled ++ bench.enrolments actions) := by
  induction actions generalizing bench enrolled with
  | nil => exact (List.append_nil enrolled).symm ▸ table
  | cons action rest ih =>
      have later := ih (table.step action)
      rw [List.append_assoc] at later
      exact later

theorem enrolled_assemble (capacity : Fin 255) (paces : PerBus (Option Pace))
    (buffers : List (List UInt8)) (sensors : List (Config × Nat))
    : (assemble capacity paces buffers sensors).Enrolled capacity
        (fun id => (paces.get id).isSome) [] where
  grounded := grounded_assemble capacity paces buffers sensors
  capacity := rfl
  buses id := by simp [assemble, Bench.new, Master.new, Master.peripheral?, Master.bus, Bus.new]
  entries := rfl
  handles := rfl

-----------------------------------------------------------------------------------------
-- What handles stand for
-----------------------------------------------------------------------------------------

/-- A handle stands for the slave that entered under it, and for nothing else. -/
theorem Enrolled.get?_eq_some_iff (table : bench.Enrolled capacity present enrolled)
    {handle : Handle} {slave : Slave}
    : bench.master.slaves.get? handle = some slave ↔ (handle, slave) ∈ enrolled := by
  have place {position : Nat} {entry : Handle × Slave}
      (there : enrolled[position]? = some entry)
      : entry.1.index = position := by
    have counted := congrArg (·[position]?) table.handles
    obtain ⟨inside, rfl⟩ := List.getElem?_eq_some_iff.mp there
    simpa [inside] using counted
  rw [SlaveTable.get?, table.entries, List.getElem?_map]
  constructor
  · intro found
    obtain ⟨⟨other, known⟩, there, rfl⟩ := Option.map_eq_some_iff.mp found
    have same : other.index = handle.index := place there
    obtain ⟨code⟩ := handle
    obtain ⟨otherCode⟩ := other
    obtain rfl := UInt8.toNat_inj.mp same
    exact List.mem_of_getElem? there
  · intro member
    obtain ⟨position, there⟩ := List.mem_iff_getElem?.mp member
    obtain rfl : handle.index = position := place there
    simp [there]

theorem Enrolled.size (table : bench.Enrolled capacity present enrolled)
    : bench.master.slaves.size = enrolled.length := by
  rw [SlaveTable.size, table.entries, List.length_map]

/-- What is wanted of a slave that is not in the table is refused, and nothing is done. -/
theorem operates_of_unknown {handle : Handle} (operates : action.operand? = some handle)
    (unknown : bench.master.resolve handle = .error .unknownSlave)
    : (bench.step action).1.result = .masterError .unknownSlave
      ∧ (bench.step action).2.master = bench.master := by
  cases action with
  | tryTransfer request =>
      obtain rfl := Option.some.inj operates
      simp only [step, Master.tryTransfer, unknown]
      exact ⟨rfl, True.intro⟩
  | start operation number =>
      obtain rfl := Option.some.inj operates
      simp only [step, Master.start, unknown]
      exact ⟨rfl, master_settleOperation _ _ _⟩
  | standby other schedule number =>
      obtain rfl := Option.some.inj operates
      simp only [step, Master.startStandby, unknown]
      exact ⟨rfl, master_settleStandby _ _ _⟩
  | _ => simp [Action.operand?] at operates

/-- What is wanted of a slave of the table is never refused for want of the slave or of its bus. -/
theorem operates_of_known {handle : Handle} (operates : action.operand? = some handle)
    (known : bench.master.resolve handle = .ok slave)
    : (bench.step action).1.result ≠ .masterError .unknownSlave
      ∧ (bench.step action).1.result ≠ .masterError .unknownBus := by
  cases action with
  | tryTransfer request =>
      obtain rfl := Option.some.inj operates
      simp only [step, Master.tryTransfer, known]
      by_cases empty : request.window.length = 0
      · simp [empty, Answer.ofResult, Result.ofMaster]
      · simp only [empty, if_false]
        cases bench.master.attempt slave (.transfer request) <;>
          simp [Answer.ofResult, Result.ofMaster]
  | start operation number =>
      obtain rfl := Option.some.inj operates
      simp only [step]
      cases filled : operation.isEmpty with
      | true =>
          simp [Master.start, known, filled, settleOperation, Answer.ofResult, Result.ofMaster,
            Result.ofReply]
      | false =>
          rw [Master.start_eq_resume known filled, Master.resume]
          cases bench.master.attempt slave operation with
          | none => simp [settleOperation, Answer.ofResult]
          | some outcome =>
              obtain ⟨reply, next⟩ := outcome
              cases reply <;>
                simp [settleOperation, Answer.ofResult, Result.ofMaster, Result.ofReply]
  | standby other schedule number =>
      obtain rfl := Option.some.inj operates
      have only {cause : MasterError}
          (failed
            : (bench.master.claimStandby other slave (.new schedule)).1 = .ready (.error cause))
          : cause = .standbyTimeout :=
        Master.claimStandby_error failed
      simp only [step, Master.startStandby, known]
      generalize bench.master.claimStandby other slave (.new schedule) = progress at only ⊢
      obtain ⟨outcome, delay, master⟩ := progress
      cases outcome with
      | pending rest => simp [settleStandby]
      | ready answer =>
          cases answer with
          | ok => simp [settleStandby, Result.ofMaster]
          | error cause =>
              obtain rfl := only rfl
              simp [settleStandby, Result.ofMaster]
  | _ => simp [Action.operand?] at operates

-----------------------------------------------------------------------------------------
-- Every run
-----------------------------------------------------------------------------------------

/-- What the table of a bench with this many places and these buses holds and answers, after slaves
entered it in this order and under these handles.
-/
structure Registry (capacity : Fin 255) (present : BusId → Bool) (bench : Bench)
    (enrolled : List (Handle × Slave))
    : Prop where
  buses : ∀ id, (bench.master.peripheral? id).isSome = present id
  capacity : bench.master.slaves.capacity = capacity
  entries : bench.master.slaves.entries = enrolled.map Prod.snd
  bound : enrolled.length ≤ bench.master.slaves.capacity
  handles : enrolled.map (fun entry => entry.1.index) = List.range enrolled.length
  proper : ∀ entry ∈ enrolled, entry.1.code ≠ HandleCell.vacant
  distinct
    : enrolled.Pairwise fun first second =>
        first.2.bus = second.2.bus → first.2.address ≠ second.2.address
  valid : ∀ entry ∈ enrolled, entry.2.address ≤ 0x7F ∧ present entry.2.bus = true
  stands
    : ∀ handle slave,
        bench.master.slaves.get? handle = some slave ↔ (handle, slave) ∈ enrolled
  unknown
    : ∀ handle, bench.master.slaves.get? handle = none ↔ bench.master.slaves.size ≤ handle.index

theorem Enrolled.registry (table : bench.Enrolled capacity present enrolled)
    : bench.Registry capacity present enrolled := by
  have lawful := table.grounded.lawful
  refine ⟨table.buses, table.capacity, table.entries, table.size ▸ lawful.fits, table.handles,
    ?_, ?_, ?_, fun _ _ => table.get?_eq_some_iff, fun _ => SlaveTable.get?_eq_none_iff⟩
  · intro entry member
    exact lawful.fits.code_ne_vacant (table.get?_eq_some_iff.mpr member)
  · exact List.pairwise_map.mp (table.entries ▸ lawful.distinct)
  · intro entry member
    rw [← table.buses]
    exact lawful.valid entry.2 (table.entries ▸ List.mem_map_of_mem member)

/-- Whatever is done, the table holds the slaves that were accepted, in their order and under the
handles that were answered, and it goes on doing so. An action adds to it exactly what it enters.
A registration is refused for the first cause that applies, and a slave that nothing speaks against
gets the next handle. Whoever is told about a completion is the slave that entered under the handle
that owns the bus. What is wanted of a slave is refused as unknown exactly if its handle is past
the table, then nothing is done, and it is never refused for want of a bus.
-/
theorem slaves_in_order (capacity : Fin 255) (paces : PerBus (Option Pace))
    (buffers : List (List UInt8)) (sensors : List (Config × Nat)) (actions : List Action)
    : let bench := ((assemble capacity paces buffers sensors).run actions).2
      let enrolled := (assemble capacity paces buffers sensors).enrolments actions
      let present := fun id => (paces.get id).isSome
      bench.Registry capacity present enrolled
      ∧ (∀ later,
        (bench.run later).2.Registry capacity present (enrolled ++ bench.enrolments later))
      ∧ (∀ action,
        (bench.step action).2.master.slaves
        = { bench.master.slaves with
            entries :=
              bench.master.slaves.entries ++ (bench.enrols action).toList.map Prod.snd })
      ∧ (∀ action slave, bench.registrant action = some slave
        → (∀ cause,
            (bench.step action).1.result.registration? = some (.error cause)
            ↔ bench.master.Refuses slave cause)
          ∧ ∀ handle,
              (bench.step action).1.result.registration? = some (.ok handle)
              ↔ bench.master.Admits slave ∧ handle = .ofIndex bench.master.slaves.size)
      ∧ (∀ action notice, (bench.step action).1.notice = some notice
        → ∃ bus stream peripheral slave,
            action = .complete bus stream
            ∧ (notice.handle, slave) ∈ enrolled
            ∧ (bench.master.bus bus).owner = some notice.handle
            ∧ (notice, (bench.step action).2.master)
              = (bench.master.freed bus peripheral stream).notify notice.handle slave)
      ∧ ∀ action handle, action.operand? = some handle
        → (bench.step action).1.result ≠ .masterError .unknownBus
          ∧ ((bench.step action).1.result = .masterError .unknownSlave
            ↔ bench.master.slaves.size ≤ handle.index)
          ∧ (bench.master.slaves.size ≤ handle.index
            → (bench.step action).2.master = bench.master) := by
  have table := (enrolled_assemble capacity paces buffers sensors).run actions
  rw [List.nil_append] at table
  generalize (assemble capacity paces buffers sensors).enrolments actions = enrolled at table ⊢
  generalize ((assemble capacity paces buffers sensors).run actions).2 = bench at table ⊢
  refine ⟨table.registry, fun later => (table.run later).registry,
    fun action => (table.grounded.slaves_step action).1, ?_, ?_, ?_⟩
  · intro action slave asked
    rw [registration_of_registrant asked]
    refine ⟨fun cause => Option.some_inj.trans Master.register_eq_error_iff, fun handle => ?_⟩
    rw [Option.some_inj]
    constructor
    · intro accepted
      have admits := Master.register_eq_ok_iff.mp ⟨handle, accepted⟩
      exact ⟨admits, Except.ok.inj (accepted.symm.trans admits.register.1)⟩
    · rintro ⟨admits, rfl⟩
      exact admits.register.1
  · intro action notice told
    by_cases completes : ∃ bus stream, action = .complete bus stream
    · obtain ⟨bus, stream, rfl⟩ := completes
      obtain ⟨peripheral, slave, found, held, same⟩ := Master.complete_of_told told
      refine ⟨bus, stream, peripheral, slave, rfl, table.get?_eq_some_iff.mp found, held, ?_⟩
      obtain ⟨first, second⟩ := Prod.mk.inj same
      exact Prod.ext (Option.some.inj first) second
    · have silent := bench.notice_eq_none (fun bus stream same => completes ⟨bus, stream, same⟩)
      simp [silent] at told
  · intro action handle operates
    rcases table.grounded.lawful.resolve handle with ⟨slave, found, known⟩ | ⟨past, unknown⟩
    · have inside : ¬ bench.master.slaves.size ≤ handle.index := by
        rw [← SlaveTable.get?_eq_none_iff, found]
        simp
      obtain ⟨slaveKnown, busKnown⟩ := operates_of_known operates known
      exact ⟨busKnown, ⟨fun same => absurd same slaveKnown, fun past => absurd past inside⟩,
        fun past => absurd past inside⟩
    · obtain ⟨result, master⟩ := operates_of_unknown operates unknown
      exact ⟨by simp [result], ⟨fun _ => past, fun _ => result⟩, fun _ => master⟩

/-- An address that is too large, a bus that is absent, a slave that is known and a table that is
full each keep a slave out. The one that got in stands under the first handle for good, and the
second handle stands for nobody.
-/
theorem slaves_in_order_in_full_table
    : let slave : Slave := ⟨.i2c1, 0x50, .none⟩
      let late : Slave := ⟨.i2c1, 0x51, .none⟩
      let read : Request := ⟨.read, ⟨1⟩, ⟨.bits8, 0x00⟩, ⟨.buffer 0, 0, 2⟩⟩
      let start := assemble 1 ⟨some .instant, none, none⟩ [[0, 0]] []
      let bench :=
        (start.run [.register ⟨.i2c1, 0x80, .none⟩, .register ⟨.i2c2, 0x50, .none⟩,
          .register slave, .register slave]).2
      bench.Registry 1 (fun id => (PerBus.get ⟨some Pace.instant, none, none⟩ id).isSome)
          [(⟨0⟩, slave)]
      ∧ (bench.step (.register late)).1.result.registration? = some (.error .tableFull)
      ∧ bench.master.Refuses late .tableFull
      ∧ (bench.step (.tryTransfer read)).1.result = .masterError .unknownSlave
      ∧ bench.master.slaves.size ≤ read.handle.index := by
  intro slave late read start bench
  obtain ⟨registry, -, -, asked, -, operates⟩ :=
    slaves_in_order 1 ⟨some .instant, none, none⟩ [[0, 0]] []
      [.register ⟨.i2c1, 0x80, .none⟩, .register ⟨.i2c2, 0x50, .none⟩, .register slave,
        .register slave]
  have full
      : (bench.step (.register late)).1.result.registration? = some (.error .tableFull) := rfl
  have unknown
      : (bench.step (.tryTransfer read)).1.result = .masterError .unknownSlave := rfl
  exact ⟨registry, full, ((asked (.register late) late rfl).1 .tableFull).mp full, unknown,
    (operates (.tryTransfer read) read.handle rfl).2.1.mp unknown⟩

end Bench

end TwoWire
