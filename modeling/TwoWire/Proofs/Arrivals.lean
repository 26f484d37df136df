import TwoWire.Proofs.Grounds
import TwoWire.Proofs.Places

/-! What arrives in the memory, and the windows in which something may arrive later.

Whatever is done with a master, bytes change only where some arrive at once, which are those of a
window that is read byte by byte. Everything else that it does leaves the bytes alone, but it may
arm a window of a request, and what is armed is where bytes land later.
-/

namespace TwoWire

open WireFrame
open Magnetometer

-----------------------------------------------------------------------------------------
-- Bytes that arrive in a memory
-----------------------------------------------------------------------------------------

/-- Bytes that arrive in the memory of a window, from its start on. -/
structure Arrival where
  window : Window
  data : List UInt8

/-- The position is filled: there is a byte for it, and it lies in the window. -/
def Arrival.Covers (arrival : Arrival) (region : Region) (position : Nat) : Prop :=
  region = arrival.window.region
  ∧ arrival.window.offset ≤ position
  ∧ position < arrival.window.offset + min arrival.data.length arrival.window.length

namespace Memory

/-- What arrived, if something did, stands where it belongs, and every other byte is kept. -/
structure Takes (memory : Memory) (arrival : Option Arrival) (next : Memory) : Prop where
  sizes : ∀ region, (next.bytes region).length = (memory.bytes region).length
  put
    : ∀ given ∈ arrival, ∀ region position, given.Covers region position
      → position < (memory.bytes region).length
      → (next.bytes region)[position]? = given.data[position - given.window.offset]?
  kept
    : ∀ region position, (∀ given ∈ arrival, ¬ given.Covers region position)
      → (next.bytes region)[position]? = (memory.bytes region)[position]?

variable {memory middle next : Memory} {arrival : Option Arrival} {window : Window}

theorem takes_nothing (same : ∀ region, next.bytes region = memory.bytes region)
    : memory.Takes none next where
  sizes region := by rw [same]
  put _ given := by simp at given
  kept region position _ := by rw [same]

/-- Where nothing arrives every region is kept, since each of its bytes is. -/
theorem Takes.bytes_eq (takes : memory.Takes none next) (region : Region)
    : next.bytes region = memory.bytes region :=
  List.ext_getElem? fun position => takes.kept region position (by simp)

/-- Writing lets the data arrive as far as the window reaches, by looking up each position. -/
theorem takes_write (memory : Memory) (window : Window) (data : List UInt8)
    : memory.Takes (some ⟨window, data⟩) (memory.write window data) where
  sizes := memory.length_bytes_write window data
  put given arrived region position covers inside := by
    cases arrived
    obtain ⟨here, early, late⟩ := covers
    dsimp only at here early late ⊢
    have taken : position - window.offset < (data.take window.length).length := by
      rw [List.length_take]
      omega
    have within : position < window.offset + window.length := by omega
    have short : position - window.offset < window.length := by omega
    rw [getElem?_bytes_write, if_pos ⟨here, early, within⟩, List.getElem?_eq_getElem inside,
      Option.map_some, List.getD_eq_getElem?_getD, List.getElem?_eq_getElem taken,
      ← List.getElem?_take_of_lt short, List.getElem?_eq_getElem taken, Option.getD_some]
  kept region position apart := by
    have apart := apart _ rfl
    rw [getElem?_bytes_write]
    split
    · rename_i inside
      obtain ⟨here, early, late⟩ := inside
      have past : (data.take window.length).length ≤ position - window.offset := by
        rw [List.length_take]
        apply Nat.le_of_not_lt
        intro short
        exact apart ⟨here, early, by dsimp only; omega⟩
      simp [List.getElem?_eq_none past]
    · rfl

/-- A window without bytes takes none. -/
theorem takes_write_empty (memory : Memory) (empty : window.length = 0) (data : List UInt8)
    : memory.Takes none (memory.write window data) := by
  refine takes_nothing (fun region => ?_)
  by_cases here : region = window.region
  · rw [here, bytes_write_self, empty, List.take_zero, overwrite_nil]
  · exact bytes_write_of_ne here data

/-- What arrives after a time in which nothing did arrives all in all. -/
theorem Takes.after (head : memory.Takes none middle) (tail : middle.Takes arrival next)
    : memory.Takes arrival next := by
  have same := head.bytes_eq
  constructor
  · intro region
    rw [tail.sizes, same]
  · intro given arrived region position covers inside
    exact tail.put given arrived region position covers (by rwa [same])
  · intro region position apart
    rw [tail.kept region position apart, same]

/-- A region in which nothing arrives is kept. -/
theorem Takes.bytes_of_ne (takes : memory.Takes arrival next) {region : Region}
    (apart : ∀ given ∈ arrival, given.window.region ≠ region)
    : next.bytes region = memory.bytes region :=
  List.ext_getElem? fun position =>
    takes.kept region position fun given arrived covers => apart given arrived covers.1.symm

/-- A ring that moves on keeps its bytes. -/
theorem takes_advanceRing (memory : Memory) (index : Nat)
    : memory.Takes none (memory.advanceRing index) :=
  takes_nothing fun region => bytes_advanceRing memory index region

end Memory

-----------------------------------------------------------------------------------------
-- Windows that are armed
-----------------------------------------------------------------------------------------

/-- A window that is armed afterwards was armed before, or it is one of these. -/
def Peripheral.Arms (before : Peripheral) (windows : List Window) (after : Peripheral) : Prop :=
  ∀ stream window, after.armed = some (stream, window)
    → before.armed = some (stream, window) ∨ window ∈ windows

/-- The byte that a command receives. -/
def Command.received? : Command → Option UInt8
  | receive value => some value
  | _ => none

namespace Peripheral

variable {before after : Peripheral} {windows : List Window}

theorem arms_of_armed (same : after.armed = before.armed)
    : before.Arms windows after :=
  fun _ _ armed => .inl (same.symm.trans armed)

theorem arms_of_streams (same : after.streams = before.streams)
    : before.Arms windows after :=
  arms_of_armed (congrArg StreamState.armed same)

/-- The window that was left armed is the only new one. -/
theorem arms_of_leaves {said : List Command} {stream : Stream} {window : Window}
    (leaves : before.Leaves said { before.streams with armed := some (stream, window) } after)
    : before.Arms [window] after := by
  intro other current armed
  have left : after.armed = some (stream, window) := congrArg StreamState.armed leaves.streams
  cases left.symm.trans armed
  exact .inr (List.mem_singleton_self _)

theorem armed_setCompleted (peripheral : Peripheral) (stream : Stream) (value : Bool)
    : (peripheral.setCompleted stream value).armed = peripheral.armed := by
  cases stream <;> rfl

theorem armed_takeCompleted (peripheral : Peripheral) (stream : Stream)
    : (peripheral.takeCompleted stream).2.armed = peripheral.armed :=
  peripheral.armed_setCompleted stream false

/-- What was taken away is armed no longer. -/
theorem armed_of_taken {peripheral : Peripheral} {stream : Stream} {entry : Window × Peripheral}
    (taken : peripheral.takeArmed stream = some entry)
    : entry.2.armed = none := by
  unfold takeArmed at taken
  split at taken
  · split at taken
    · cases taken
      rfl
    · simp at taken
  · simp at taken

theorem armed_closeFrame (peripheral : Peripheral) (stream : Stream)
    : (peripheral.closeFrame stream).armed = peripheral.armed := by
  cases stream with
  | tx => exact congrArg StreamState.armed (peripheral.says_closeFrame .write).streams
  | rx => exact congrArg StreamState.armed (peripheral.says_closeFrame .read).streams

/-- Trials arm nothing, by induction over those that may be made. -/
theorem armed_run (address : UInt8) (trials : Nat) (peripheral : Peripheral) (delay : Delay)
    : (Retry.run Standby.interval (·.probe address) trials peripheral delay).2.1.armed
      = peripheral.armed := by
  induction trials generalizing peripheral delay with
  | zero => rfl
  | succ trials ih =>
      have probed : (peripheral.probe address).2.armed = peripheral.armed :=
        congrArg StreamState.armed (peripheral.says_probe address).streams
      simp only [Retry.run]
      split
      · exact probed
      · split
        · exact probed
        · split
          · exact (ih _ _).trans probed
          · exact probed

theorem armed_resume (address : UInt8) (paused : Retry.Paused) (peripheral : Peripheral)
    (delay : Delay)
    : (Retry.resume Standby.interval (·.probe address) paused peripheral delay).2.1.armed
      = peripheral.armed := by
  unfold Retry.resume
  split
  · exact armed_run address paused.trials peripheral _
  · rfl

/-- Nothing that is done by hand arms a window but arming it, by cases on what it is. -/
theorem arms_manual (peripheral : Peripheral) (access : ManualAccess)
    : peripheral.Arms (match access with | .arm _ window => [window] | _ => [])
        (access.apply peripheral).2 := by
  cases access with
  | arm stream window =>
      rintro current other armed
      cases armed
      exact .inr (List.mem_singleton_self _)
  | stopHeld => exact arms_of_streams peripheral.says_askStopHeld.streams
  | event kind => exact arms_of_streams (peripheral.says_askEvent kind).streams
  | flag kind => exact arms_of_streams (peripheral.says_askFlag kind).streams
  | takeCompleted stream => exact arms_of_armed (peripheral.armed_takeCompleted stream)
  | configure | start | stop | address | send | receive | clearAddress | clearAckFailure | ack
  | lastTransfer | dmaRequests | disable => exact arms_of_armed rfl

end Peripheral

namespace Operation

/-- The windows that an operation may arm. -/
def windows : Operation → List Window
  | transfer request => [request.window]
  | readByte .. | writeByte .. => []

/-- What arrives in the memory at once while an operation is done, given the bytes that the
peripheral received meanwhile.
-/
def arrival (operation : Operation) (received : List UInt8) : Option Arrival :=
  match operation with
  | transfer ⟨.read, _, _, window⟩ =>
    if window.length = 1 then some ⟨window, received⟩ else none
  | _ => none

end Operation

/-- At once only the byte of a read into a window of one byte arrives, by cases on the operation. -/
theorem Operation.eq_of_mem_arrival {operation : Operation} {received : List UInt8}
    {given : Arrival} (arrived : given ∈ operation.arrival received)
    : ∃ request : Request,
        operation = .transfer request
        ∧ request.kind = .read
        ∧ request.window.length = 1
        ∧ given = ⟨request.window, received⟩ := by
  match operation with
  | .transfer ⟨.read, _, _, window⟩ =>
      simp only [arrival, Option.mem_def, Option.ite_none_right_eq_some, Option.some.injEq]
        at arrived
      exact ⟨_, rfl, rfl, arrived.1, arrived.2.symm⟩
  | .transfer ⟨.write, _, _, _⟩ | .readByte .. | .writeByte .. => simp [arrival] at arrived

theorem Operation.window_mem_of_arrival {operation : Operation} {received : List UInt8}
    {given : Arrival} (arrived : given ∈ operation.arrival received)
    : given.window ∈ operation.windows := by
  obtain ⟨request, rfl, -, -, rfl⟩ := Operation.eq_of_mem_arrival arrived
  exact List.mem_singleton_self _

/-- One byte is received while a register is read. -/
theorem WireFrame.received_readByte (address : UInt8) (register : RegisterAddress)
    (value : UInt8)
    : (WireFrame.readByte address register value).commands.filterMap Command.received?
      = [value] := by
  obtain ⟨width, number⟩ := register
  cases width <;> rfl

-----------------------------------------------------------------------------------------
-- Masters
-----------------------------------------------------------------------------------------

namespace Master

/-- The window is armed on a bus. -/
def Armed (master : Master) (id : BusId) (window : Window) : Prop :=
  ∃ peripheral stream,
    master.peripheral? id = some peripheral ∧ peripheral.armed = some (stream, window)

/-- What arrived in the memory, and the windows that may have been armed. -/
structure Effect (windows : List Window) (arrival : Option Arrival) (master next : Master)
    : Prop where
  takes : master.memory.Takes arrival next.memory
  armed : ∀ id window, next.Armed id window → master.Armed id window ∨ window ∈ windows

variable {master middle next : Master} {windows more : List Window} {arrival : Option Arrival}
  {id : BusId} {before after : Peripheral} {slave : Slave} {operation : Operation}

theorem Effect.refl (master : Master)
    : master.Effect windows none master :=
  ⟨Memory.takes_nothing fun _ => rfl, fun _ _ armed => .inl armed⟩

theorem Effect.trans (head : Effect windows none master middle)
    (tail : Effect windows arrival middle next)
    : master.Effect windows arrival next where
  takes := head.takes.after tail.takes
  armed id window armed := (tail.armed id window armed).elim (head.armed id window) .inr

theorem Effect.mono (effect : master.Effect windows arrival next)
    (all : ∀ window ∈ windows, window ∈ more)
    : master.Effect more arrival next where
  takes := effect.takes
  armed id window armed := (effect.armed id window armed).imp_right (all window)

/-- A bus is replaced by one whose peripheral arms no other windows. -/
theorem effect_setBus {bus : Bus} {memory : Memory} (here : master.peripheral? id = some before)
    (there : bus.peripheral = some after) (arms : before.Arms windows after)
    (takes : master.memory.Takes arrival memory)
    : master.Effect windows arrival { master.setBus id bus with memory } where
  takes := takes
  armed other window armed := by
    obtain ⟨peripheral, stream, present, armed⟩ := armed
    by_cases same : other = id
    · subst same
      have now : peripheral = after := by
        simpa [peripheral?, Master.bus, setBus, there] using present.symm
      subst now
      exact (arms stream window armed).imp_left fun armed => ⟨before, stream, here, armed⟩
    · refine .inl ⟨peripheral, stream, ?_, armed⟩
      simpa [peripheral?, Master.bus, setBus, same] using present

theorem effect_setPeripheral (here : master.peripheral? id = some before)
    (arms : before.Arms windows after)
    : master.Effect windows none (master.setPeripheral id after) :=
  effect_setBus here rfl arms (Memory.takes_nothing fun _ => rfl)

/-- The memory alone has changed. -/
theorem effect_memory {memory : Memory} (takes : master.memory.Takes arrival memory)
    : master.Effect windows arrival { master with memory } :=
  ⟨takes, fun _ _ armed => .inl armed⟩

/-- A read of fewer than two bytes says the frame of a single byte, which is then written. -/
theorem readByte_of_attempt {handle : Handle} {register : RegisterAddress} {window : Window}
    {reply : Reply} (short : ¬ 2 ≤ window.length)
    (served : master.attempt slave (.transfer ⟨.read, handle, register, window⟩)
      = some (reply, next))
    : ∃ value before after bus,
        master.peripheral? slave.bus = some before
        ∧ bus.peripheral = some after
        ∧ before.Says (WireFrame.readByte slave.address register value).commands after
        ∧ next
          = { master.setBus slave.bus bus with
              memory := master.memory.write window [value] } := by
  obtain ⟨peripheral, after, memory, -, here, driven, rfl⟩ := eq_of_attempt served
  simp only [Operation.drive, short, if_false, Prod.mk.injEq] at driven
  obtain ⟨-, rfl, rfl⟩ := driven
  exact ⟨_, _, _, _, here, rfl, peripheral.says_readRegister slave.address register, rfl⟩

/-- What arrived at once is the one byte that was received meanwhile. -/
theorem received_of_attempt {request : Request} {reply : Reply}
    (served : master.attempt slave (.transfer request) = some (reply, next))
    (reads : request.kind = .read) (single : request.window.length = 1)
    : ∃ value, (master.saidUntil next slave.bus).filterMap Command.received? = [value] := by
  obtain ⟨kind, handle, register, window⟩ := request
  obtain rfl : kind = .read := reads
  have short : ¬ 2 ≤ window.length := by
    dsimp only at single
    omega
  obtain ⟨value, before, after, bus, here, there, said, rfl⟩ := readByte_of_attempt short served
  refine ⟨value, ?_⟩
  rw [saidUntil_of_commands here ?_ said.commands, received_readByte]
  simpa [peripheral?, Master.bus, setBus] using there

/-- An operation that is served lets the byte arrive that it received, if it reads one into a
window, and arms at most its own window. The proof is by cases on what is moved.
-/
theorem effect_attempt {reply : Reply}
    (served : master.attempt slave operation = some (reply, next))
    : master.Effect operation.windows
        (operation.arrival ((master.saidUntil next slave.bus).filterMap Command.received?))
        next := by
  obtain ⟨peripheral, after, memory, -, here, driven, rfl⟩ := eq_of_attempt served
  have unchanged : master.memory.Takes none master.memory := Memory.takes_nothing fun _ => rfl
  cases operation with
  | transfer request =>
      obtain ⟨kind, handle, register, window⟩ := request
      by_cases long : 2 ≤ window.length
      · have several : window.length ≠ 1 := by omega
        cases kind with
        | read =>
            simp only [Operation.drive, long, if_true, Prod.mk.injEq] at driven
            obtain ⟨-, rfl, rfl⟩ := driven
            simp only [Operation.arrival, several, if_false]
            exact effect_setBus here rfl
              (Peripheral.arms_of_leaves (peripheral.leaves_openRead _ _ window)) unchanged
        | write =>
            simp only [Operation.drive, long, if_true, Prod.mk.injEq] at driven
            obtain ⟨-, rfl, rfl⟩ := driven
            exact effect_setBus here rfl
              (Peripheral.arms_of_leaves (peripheral.leaves_openWrite _ _ window)) unchanged
      · cases kind with
        | read =>
            obtain ⟨value, before, after, bus, here, there, said, same⟩ :=
              readByte_of_attempt long served
            rw [same]
            have arms : before.Arms [window] after := Peripheral.arms_of_streams said.streams
            by_cases single : window.length = 1
            · rw [saidUntil_of_commands here ?_ said.commands, received_readByte]
              · simp only [Operation.arrival, single, if_true]
                exact effect_setBus here there arms (master.memory.takes_write window _)
              · simpa [peripheral?, Master.bus, setBus] using there
            · simp only [Operation.arrival, single, if_false]
              have empty : window.length = 0 := by omega
              exact effect_setBus here there arms (master.memory.takes_write_empty empty _)
        | write =>
            simp only [Operation.drive, long, if_false, Prod.mk.injEq] at driven
            obtain ⟨-, rfl, rfl⟩ := driven
            exact effect_setBus here rfl
              (Peripheral.arms_of_streams (peripheral.says_writeRegister _ _ _).streams) unchanged
  | readByte handle register =>
      simp only [Operation.drive, Prod.mk.injEq] at driven
      obtain ⟨-, rfl, rfl⟩ := driven
      exact effect_setBus here rfl
        (Peripheral.arms_of_streams (peripheral.says_readRegister _ _).streams) unchanged
  | writeByte handle register value =>
      simp only [Operation.drive, Prod.mk.injEq] at driven
      obtain ⟨-, rfl, rfl⟩ := driven
      exact effect_setBus here rfl
        (Peripheral.arms_of_streams (peripheral.says_writeRegister _ _ _).streams) unchanged

/-- Single bytes that are moved one after the other need no memory, by induction over them. -/
theorem Serves.effect {origin : Origin} {handles : List Handle}
    (serves : Serves origin Operation.IsSingle master handles next)
    : master.Effect [] none next := by
  induction serves with
  | done => exact .refl _
  | next single _ served _ ih =>
      have effect := effect_attempt served
      cases single <;> exact effect.trans ih

/-- A transfer that does not wait is refused, has nothing to move, or is served. -/
theorem tryTransfer_cases (master : Master) (request : Request)
    : (∃ cause, master.tryTransfer request = (.error cause, master))
      ∨ ∃ slave,
          master.slaves.get? request.handle = some slave
          ∧ ((request.window.length = 0 ∧ master.tryTransfer request = (.ok (), master))
            ∨ ∃ reply next,
                master.attempt slave (.transfer request) = some (reply, next)
                ∧ master.tryTransfer request = (.ok (), next)) := by
  unfold tryTransfer
  cases resolved : master.resolve request.handle with
  | error cause => exact .inl ⟨cause, rfl⟩
  | ok slave =>
      by_cases empty : request.window.length = 0
      · exact .inr ⟨slave, (get?_of_resolve resolved).1, .inl ⟨empty, by simp [empty]⟩⟩
      · cases attempted : master.attempt slave (.transfer request) with
        | none => exact .inl ⟨.busy, by simp [empty, attempted]⟩
        | some outcome =>
            obtain ⟨reply, next⟩ := outcome
            exact .inr ⟨slave, (get?_of_resolve resolved).1,
              .inr ⟨reply, next, attempted, by simp [empty, attempted]⟩⟩

/-- A transfer that does not wait arms no window but its own. -/
theorem armed_tryTransfer (master : Master) (request : Request) {window : Window}
    (armed : (master.tryTransfer request).2.Armed id window)
    : master.Armed id window ∨ window = request.window := by
  rcases master.tryTransfer_cases request with
    ⟨cause, same⟩ | ⟨slave, -, ⟨-, same⟩ | ⟨reply, next, served, same⟩⟩
  · exact .inl (by rwa [same] at armed)
  · exact .inl (by rwa [same] at armed)
  · rw [same] at armed
    refine ((effect_attempt served).armed id window armed).imp_right (fun own => ?_)
    exact List.mem_singleton.mp own

/-- Transfers that do not wait arm their own windows, by induction over them. -/
theorem armed_tryTransfers (master : Master) (requests : List Request) {window : Window}
    (armed : (master.tryTransfers requests).2.Armed id window)
    : master.Armed id window ∨ ∃ request ∈ requests, request.window = window := by
  induction requests generalizing master with
  | nil => exact .inl armed
  | cons request rest ih =>
      rcases ih _ armed with before | ⟨later, member, same⟩
      · rcases master.armed_tryTransfer request before with earlier | rfl
        · exact .inl earlier
        · exact .inr ⟨request, List.mem_cons_self, rfl⟩
      · exact .inr ⟨later, List.mem_cons_of_mem _ member, same⟩

/-- Transfers that do not wait keep a region that none of their windows is in, by induction over
them.
-/
theorem bytes_tryTransfers (master : Master) {requests : List Request} {region : Region}
    (apart : ∀ request ∈ requests, request.window.region ≠ region)
    : (master.tryTransfers requests).2.memory.bytes region = master.memory.bytes region := by
  induction requests generalizing master with
  | nil => rfl
  | cons request rest ih =>
      have first : (master.tryTransfer request).2.memory.bytes region
          = master.memory.bytes region := by
        rcases master.tryTransfer_cases request with
          ⟨cause, same⟩ | ⟨slave, -, ⟨-, same⟩ | ⟨reply, next, served, same⟩⟩
        · rw [same]
        · rw [same]
        · rw [same]
          refine (effect_attempt served).takes.bytes_of_ne (fun given arrived => ?_)
          rw [List.mem_singleton.mp (Operation.window_mem_of_arrival arrived)]
          exact apart request List.mem_cons_self
      exact (ih _ (fun later member => apart later (List.mem_cons_of_mem _ member))).trans first

-----------------------------------------------------------------------------------------
-- Buses that are brought up, and probes
-----------------------------------------------------------------------------------------

/-- The peripherals are other ones at most, which arm no other windows. -/
theorem effect_of_peripherals (memory : next.memory = master.memory)
    (same
      : ∀ id after, next.peripheral? id = some after
        → ∃ before, master.peripheral? id = some before ∧ after.armed = before.armed)
    : master.Effect [] none next where
  takes := Memory.takes_nothing fun _ => by rw [memory]
  armed id window armed := by
    obtain ⟨after, stream, there, armed⟩ := armed
    obtain ⟨before, here, kept⟩ := same id after there
    exact .inl ⟨before, stream, here, kept ▸ armed⟩

/-- Bringing up a bus arms nothing. -/
theorem armed_configureOnce {bus : Bus} (there : bus.configureOnce.peripheral = some after)
    : ∃ before, bus.peripheral = some before ∧ after.armed = before.armed := by
  unfold Bus.configureOnce at there
  split at there
  · exact ⟨after, there, rfl⟩
  · rename_i before here
    split at there
    · exact ⟨after, there, rfl⟩
    · cases there
      exact ⟨before, here, rfl⟩

theorem effect_configureAll (master : Master)
    : master.Effect [] none master.configureAll := by
  refine effect_of_peripherals rfl (fun id after there => armed_configureOnce ?_)
  simpa [configureAll, peripheral?, Master.bus] using there

theorem effect_configureOnce (master : Master) (id : BusId)
    : master.Effect [] none (master.setBus id (master.bus id).configureOnce) := by
  refine effect_of_peripherals rfl (fun other after there => ?_)
  by_cases same : other = id
  · subst same
    exact armed_configureOnce (by simpa [peripheral?, Master.bus, setBus] using there)
  · exact ⟨after, by simpa [peripheral?, Master.bus, setBus, same] using there, rfl⟩

/-- A registration brings up its bus at most; the table has no part in the memory. -/
theorem effect_register (master : Master) (slave : Slave)
    : master.Effect [] none (master.register slave).2 := by
  have ready := master.effect_configureOnce slave.bus
  unfold register
  split
  · exact .refl master
  · split
    · exact .refl master
    · split
      · exact ready
      · exact ⟨ready.takes, ready.armed⟩

theorem effect_settleStandby {progress : Poll Retry.Paused Bool × Peripheral × Delay}
    (here : master.peripheral? slave.bus = some before)
    (same : progress.2.1.armed = before.armed)
    : master.Effect [] none (master.settleStandby slave progress).2.2 := by
  obtain ⟨outcome, after, delay⟩ := progress
  cases outcome with
  | pending paused => exact effect_setPeripheral here (Peripheral.arms_of_armed same)
  | ready acknowledged =>
      refine effect_setBus here rfl (Peripheral.arms_of_armed ?_)
        (Memory.takes_nothing fun _ => rfl)
      cases acknowledged <;> exact same

/-- A probe that claims its bus makes trials, and neither arms anything. -/
theorem effect_claimStandby (master : Master) (handle : Handle) (slave : Slave) (delay : Delay)
    : master.Effect [] none (master.claimStandby handle slave delay).2.2 := by
  unfold claimStandby
  split
  · rename_i bus peripheral claimed here
    obtain ⟨-, rfl⟩ := Bus.eq_of_claim claimed
    have owned : master.Effect [] none (master.setBus slave.bus
        { master.bus slave.bus with
          active := .store (some (Transaction.probe handle).handle)
          served := (master.bus slave.bus).served ++ [.probe handle] }) :=
      effect_setBus here here (Peripheral.arms_of_armed rfl) (Memory.takes_nothing fun _ => rfl)
    have there
        : (master.setBus slave.bus
            { master.bus slave.bus with
              active := .store (some (Transaction.probe handle).handle)
              served := (master.bus slave.bus).served ++ [.probe handle] }).peripheral? slave.bus
          = some peripheral := by
      simpa [peripheral?, Master.bus, setBus] using here
    exact owned.trans (effect_settleStandby there
      (Peripheral.armed_run slave.address _ peripheral delay))
  · exact .refl master

theorem effect_startStandby (master : Master) (handle : Handle) (delay : Delay)
    : master.Effect [] none (master.startStandby handle delay).2.2 := by
  unfold startStandby
  split
  · exact .refl master
  · exact master.effect_claimStandby handle _ delay

theorem effect_resumeStandby (master : Master) (standby : Standby) (delay : Delay)
    : master.Effect [] none (master.resumeStandby standby delay).2.2 := by
  cases standby with
  | claiming handle slave => exact master.effect_claimStandby handle slave delay
  | pausing slave paused =>
      simp only [resumeStandby]
      split
      · exact .refl master
      · rename_i peripheral here
        exact effect_settleStandby here (peripheral.armed_resume slave.address paused delay)

-----------------------------------------------------------------------------------------
-- Completions
-----------------------------------------------------------------------------------------

/-- The transfers that a client asks for when it is told about a completion. -/
def asked (master : Master) (bus : BusId) (stream : Stream) : List Request :=
  (master.complete bus stream).1.toList.flatMap fun notice => notice.asked.map Prod.fst

theorem map_fst_tryTransfers (master : Master) (requests : List Request)
    : (master.tryTransfers requests).1.map Prod.fst = requests := by
  induction requests generalizing master with
  | nil => rfl
  | cons request rest ih => exact congrArg (request :: ·) (ih _)

/-- Who is told moves a ring on at most, and then the transfers happen that were asked for. -/
theorem notify_eq (master : Master) (handle : Handle) (slave : Slave)
    : ∃ told,
        master.Effect [] none told
        ∧ (master.notify handle slave).2
          = (told.tryTransfers ((master.notify handle slave).1.asked.map Prod.fst)).2 := by
  unfold notify
  split
  · exact ⟨master, .refl master, rfl⟩
  · exact ⟨_, effect_memory (master.memory.takes_advanceRing _), rfl⟩
  · refine ⟨master, .refl master, ?_⟩
    dsimp only
    rw [map_fst_tryTransfers]

/-- A completion lets nothing arrive and arms nothing by itself. All else that it does are the
transfers that the client asks for which is told.
-/
theorem complete_eq (master : Master) (bus : BusId) (stream : Stream)
    : ∃ told,
        master.Effect [] none told
        ∧ (master.complete bus stream).2
          = (told.tryTransfers (master.asked bus stream)).2 := by
  unfold asked complete
  cases here : master.peripheral? bus with
  | none => exact ⟨master, .refl master, rfl⟩
  | some peripheral =>
      dsimp only
      split
      · have freed
            : master.Effect [] none (master.setBus bus
                { master.bus bus with
                  peripheral := some ((peripheral.takeCompleted stream).2.closeFrame stream)
                  }.release.2) :=
          effect_setBus here rfl
            (Peripheral.arms_of_armed ((Peripheral.armed_closeFrame _ stream).trans
              (peripheral.armed_takeCompleted stream)))
            (Memory.takes_nothing fun _ => rfl)
        split
        · exact ⟨_, freed, rfl⟩
        · split
          · exact ⟨_, freed, rfl⟩
          · rename_i slave _
            obtain ⟨told, effect, same⟩ := notify_eq _ _ slave
            refine ⟨told, freed.trans effect, ?_⟩
            simpa using same
      · exact ⟨_, effect_setPeripheral here
          (Peripheral.arms_of_armed (peripheral.armed_takeCompleted stream)), rfl⟩

end Master

end TwoWire
