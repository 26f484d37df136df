import TwoWire.Proofs.Scene

/-! What a master does, as events that happen one after the other.

An operation that is refused or that waits does nothing. One that is given its bus is a single
event, so a client that asks for several transfers causes one event for each that is accepted.
-/

namespace TwoWire

open Scene
open WireFrame
open Magnetometer

-----------------------------------------------------------------------------------------
-- Operations that are given their bus
-----------------------------------------------------------------------------------------

/-- A claim succeeds on an idle bus only, and then stands in the ledger. -/
theorem Bus.eq_of_claim {bus next : Bus} {transaction : Transaction}
    (claimed : bus.claim transaction = some next)
    : bus.owner = none
      ∧ next = { bus with
          active := .store (some transaction.handle)
          served := bus.served ++ [transaction] } := by
  cases held : bus.active.load with
  | none =>
      simp only [claim, HandleCell.trySet_of_load_eq_none held, if_true, Option.some.injEq]
        at claimed
      exact ⟨held, claimed.symm⟩
  | some owner => simp [claim, HandleCell.trySet_of_load_eq_some held] at claimed

/-- An attempt that succeeds found its bus idle, and drove it. -/
theorem Master.eq_of_attempt {master next : Master} {slave : Slave} {operation : Operation}
    {reply : Reply} (accepted : master.attempt slave operation = some (reply, next))
    : ∃ peripheral after memory,
        (master.bus slave.bus).owner = none
        ∧ master.peripheral? slave.bus = some peripheral
        ∧ operation.drive slave.address peripheral master.memory = (reply, after, memory)
        ∧ next =
          { master.setBus slave.bus
              { master.bus slave.bus with
                active :=
                  if (operation.transaction master.memory).isStream then
                    .store (some operation.handle)
                  else .empty
                served :=
                  (master.bus slave.bus).served ++ [operation.transaction master.memory]
                peripheral := some after } with
            memory } := by
  simp only [attempt, Option.bind_eq_bind, Option.bind_eq_some_iff, Option.pure_def,
    Option.some.injEq, Prod.mk.injEq] at accepted
  obtain ⟨bus, claimed, peripheral, here, rfl, rfl⟩ := accepted
  obtain ⟨free, rfl⟩ := Bus.eq_of_claim claimed
  refine ⟨peripheral, (operation.drive slave.address peripheral master.memory).2.1,
    (operation.drive slave.address peripheral master.memory).2.2, free, here, rfl, ?_⟩
  cases (operation.transaction master.memory).isStream <;> simp [Bus.release, HandleCell.take]

/-- A transfer gives no byte back, by cases on how it is driven. -/
theorem Master.reply_of_attempt {master next : Master} {slave : Slave} {request : Request}
    {reply : Reply} (accepted : master.attempt slave (.transfer request) = some (reply, next))
    : reply = .done := by
  obtain ⟨peripheral, after, memory, -, -, driven, -⟩ := eq_of_attempt accepted
  obtain ⟨kind, handle, register, window⟩ := request
  cases kind <;> simp only [Operation.drive] at driven <;> split at driven <;>
    exact (Prod.mk.inj driven).1.symm

namespace Scene.Move

/-- What happens on one bus and leaves the trials alone happens to the master. -/
theorem ofTurn {master : Master} {trials : PerBus (Option Nat)} {id : BusId} {event : Event}
    {bus : Bus} {memory : Memory}
    (turn : (master.bus id).Turn master.slaves id (trials.get id) event bus (trials.get id))
    (remembers : event.Remembers master.memory memory)
    : Move ⟨master, trials⟩ event ⟨{ master.setBus id bus with memory }, trials⟩ := by
  have move : Move ⟨master, trials⟩ event _ := .turn turn remembers
  simpa only [change, PerBus.set_get] using move

/-- An operation that is given its bus is one event, by cases on what is moved: a single byte in
one piece, or more by a stream.
-/
theorem ofAttempt {master next : Master} {trials : PerBus (Option Nat)} {origin : Origin}
    {slave : Slave} {operation : Operation} {reply : Reply}
    (found : master.slaves.get? operation.handle = some slave)
    (captured
      : ∀ ring, origin = .capture ring
        → ∃ request : Request, operation = .transfer request
          ∧ request.kind = .read
          ∧ request.window = Sensor.captureWindow ring (master.memory.ring ring).cursor)
    (accepted : master.attempt slave operation = some (reply, next))
    : Move ⟨master, trials⟩ (.serve origin slave operation) ⟨next, trials⟩ := by
  obtain ⟨peripheral, after, memory, free, here, driven, rfl⟩ :=
    Master.eq_of_attempt accepted
  have known {transaction : Transaction} (same : transaction.handle = operation.handle)
      : master.slaves.get? transaction.handle = some slave := same ▸ found
  cases operation with
  | transfer request =>
      obtain ⟨kind, handle, register, window⟩ := request
      by_cases long : 2 ≤ window.length
      · cases kind with
        | read =>
            simp only [Operation.drive, long, if_true, Prod.mk.injEq] at driven
            obtain ⟨-, rfl, rfl⟩ := driven
            simp only [Operation.transaction, Request.transaction, long, if_true,
              Transaction.isStream, Operation.handle]
            exact ofTurn (.serveStream found rfl free here long
              (peripheral.leaves_openRead slave.address register window)) ⟨captured, .inl rfl⟩
        | write =>
            simp only [Operation.drive, long, if_true, Prod.mk.injEq] at driven
            obtain ⟨-, rfl, rfl⟩ := driven
            simp only [Operation.transaction, Request.transaction, long, if_true,
              Transaction.isStream, Operation.handle]
            exact ofTurn (.serveStream found rfl free here long
              (peripheral.leaves_openWrite slave.address register window)) ⟨captured, .inl rfl⟩
      · cases kind with
        | read =>
            simp only [Operation.drive, long, if_false, Prod.mk.injEq] at driven
            obtain ⟨-, rfl, rfl⟩ := driven
            simp only [Operation.transaction, Request.transaction, long, if_false,
              Transaction.isStream, Bool.false_eq_true]
            exact ofTurn (.serveByte (known rfl) rfl free here rfl (.readByte _)
              (peripheral.says_readRegister slave.address register)
              (by simpa [Operation.streams] using long))
              ⟨captured, .inr ⟨_, _, rfl, by simpa using long, rfl⟩⟩
        | write =>
            simp only [Operation.drive, long, if_false, Prod.mk.injEq] at driven
            obtain ⟨-, rfl, rfl⟩ := driven
            simp only [Operation.transaction, Request.transaction, long, if_false,
              Transaction.isStream, Bool.false_eq_true]
            exact ofTurn (.serveByte (known rfl) rfl free here rfl .writeByte
              (peripheral.says_writeRegister slave.address register _)
              (by simpa [Operation.streams] using long)) ⟨captured, .inl rfl⟩
  | readByte handle register =>
      simp only [Operation.drive, Prod.mk.injEq] at driven
      obtain ⟨-, rfl, rfl⟩ := driven
      exact ofTurn (.serveByte (known rfl) rfl free here rfl (.readByte _)
        (peripheral.says_readRegister slave.address register) rfl) ⟨captured, .inl rfl⟩
  | writeByte handle register value =>
      simp only [Operation.drive, Prod.mk.injEq] at driven
      obtain ⟨-, rfl, rfl⟩ := driven
      exact ofTurn (.serveByte (known rfl) rfl free here rfl .writeByte
        (peripheral.says_writeRegister slave.address register value) rfl) ⟨captured, .inl rfl⟩

end Scene.Move

/-- A master serves operations of one origin, one after the other. The handles are those of the
slaves that were given a stream.
-/
inductive Master.Serves (origin : Origin) (allowed : Operation → Prop)
    : Master → List Handle → Master → Prop
  | done {master} : Serves origin allowed master [] master
  | next {master slave operation reply middle handles last} (permitted : allowed operation)
    (found : master.slaves.get? operation.handle = some slave)
    (accepted : master.attempt slave operation = some (reply, middle))
    (rest : Serves origin allowed middle handles last)
    : Serves origin allowed master (operation.streams ++ handles) last

namespace Master.Serves

variable {origin : Origin} {allowed : Operation → Prop} {master middle last : Master}
  {handles more : List Handle}

theorem trans (head : Serves origin allowed master handles middle)
    (tail : Serves origin allowed middle more last)
    : Serves origin allowed master (handles ++ more) last := by
  induction head with
  | done => exact tail
  | next permitted found accepted _ ih =>
      rw [List.append_assoc]
      exact .next permitted found accepted (ih tail)

theorem one {slave : Slave} {operation : Operation} {reply : Reply}
    (permitted : allowed operation) (found : master.slaves.get? operation.handle = some slave)
    (accepted : master.attempt slave operation = some (reply, last))
    : Serves origin allowed master operation.streams last := by
  simpa using Serves.next permitted found accepted .done

/-- Serving leaves the table of slaves alone, since an attempt does. -/
theorem slaves (serves : Serves origin allowed master handles last)
    : last.slaves = master.slaves := by
  induction serves with
  | done => rfl
  | next _ _ accepted _ ih =>
      obtain ⟨_, _, _, _, _, _, rfl⟩ := Master.eq_of_attempt accepted
      exact ih

/-- Each operation that was served is one event, by induction over them. -/
theorem moves (serves : Serves origin allowed master handles last)
    (plain : ∀ ring, origin ≠ .capture ring) (trials : PerBus (Option Nat))
    : ∃ events,
        Scene.Moves ⟨master, trials⟩ events ⟨last, trials⟩
        ∧ events.flatMap Event.streams = handles
        ∧ ∀ event ∈ events, ∃ slave operation,
            event = .serve origin slave operation ∧ allowed operation := by
  induction serves with
  | done => exact ⟨[], .nil, rfl, by simp⟩
  | @next _ slave operation _ _ _ _ permitted found accepted _ ih =>
      obtain ⟨events, moves, streams, all⟩ := ih
      refine ⟨_, .cons (.ofAttempt found (fun ring same => absurd same (plain ring)) accepted)
        moves, ?_, ?_⟩
      · rw [List.flatMap_cons, streams]
        rfl
      · intro event member
        rcases List.mem_cons.mp member with rfl | later
        · exact ⟨slave, operation, rfl, permitted⟩
        · exact all event later

/-- Serving tells no one about a completion. -/
theorem untold {events : List Scene.Event}
    (all
      : ∀ event ∈ events, ∃ slave operation,
          event = .serve origin slave operation ∧ allowed operation)
    : events.filterMap Scene.Event.told? = [] := by
  refine List.filterMap_eq_nil_iff.mpr (fun event member => ?_)
  obtain ⟨_, _, rfl, -⟩ := all event member
  rfl

end Master.Serves

-----------------------------------------------------------------------------------------
-- Requests that wait, and requests that do not
-----------------------------------------------------------------------------------------

/-- The slave that is given a stream when a request is answered like this. -/
def Request.accepted (request : Request) : Except MasterError Unit → List Handle
  | .ok () => (Operation.transfer request).streams
  | .error _ => []

/-- The slave that is given a stream when an operation gets as far as this. -/
def Operation.accepted (operation : Operation)
    : Poll Claiming (Except MasterError Reply) → List Handle
  | .ready (.ok _) => operation.streams
  | .ready (.error _) | .pending _ => []

theorem Operation.streams_of_empty {request : Request} (empty : request.window.length = 0)
    : (transfer request).streams = [] := by
  simp [streams, empty]

theorem Operation.streams_of_isEmpty {operation : Operation} (empty : operation.isEmpty = true)
    : operation.streams = [] := by
  cases operation with
  | transfer request => exact streams_of_empty (of_decide_eq_true empty)
  | readByte | writeByte => rfl

namespace Master

/-- What an operation that waits for its bus needs to know: its slave is the registered one. -/
def Knows (master : Master) (claiming : Claiming) : Prop :=
  master.slaves.get? claiming.operation.handle = some claiming.slave

theorem get?_of_resolve {master : Master} {handle : Handle} {slave : Slave}
    (resolved : master.resolve handle = .ok slave)
    : master.slaves.get? handle = some slave
      ∧ ∃ peripheral, master.peripheral? slave.bus = some peripheral := by
  unfold resolve at resolved
  split at resolved
  · simp at resolved
  · rename_i known found
    split at resolved
    · simp at resolved
    · rename_i here
      obtain rfl := Except.ok.inj resolved
      exact ⟨found, Option.ne_none_iff_exists'.mp (by simpa using here)⟩

/-- A transfer that does not wait does nothing or is served, by cases on what refuses it. -/
theorem serves_tryTransfer (master : Master) {request : Request} {allowed : Operation → Prop}
    (permitted : allowed (.transfer request))
    : master.Serves .client allowed (request.accepted (master.tryTransfer request).1)
        (master.tryTransfer request).2 := by
  unfold tryTransfer
  cases resolved : master.resolve request.handle with
  | error cause => exact .done
  | ok slave =>
      simp only
      by_cases empty : request.window.length = 0
      · simp only [empty, if_true, Request.accepted, Operation.streams_of_empty empty]
        exact .done
      · simp only [empty, if_false]
        cases accepted : master.attempt slave (.transfer request) with
        | none => exact .done
        | some outcome =>
            obtain ⟨reply, next⟩ := outcome
            exact .one permitted (get?_of_resolve resolved).1 accepted

/-- Transfers that do not wait are served one after the other, by induction over them. -/
theorem serves_tryTransfers (master : Master) {requests : List Request}
    {allowed : Operation → Prop}
    (permitted : ∀ request ∈ requests, allowed (.transfer request))
    : master.Serves .client allowed
        ((master.tryTransfers requests).1.flatMap fun asked => asked.1.accepted asked.2)
        (master.tryTransfers requests).2 := by
  induction requests generalizing master with
  | nil => exact .done
  | cons request rest ih =>
      exact (master.serves_tryTransfer (permitted request List.mem_cons_self)).trans
        (ih _ (fun later member => permitted later (List.mem_cons_of_mem request member)))

/-- The outcome of an operation that may wait: what was served, and if it waits, for what. -/
structure Settles (origin : Origin) (allowed : Operation → Prop) (master : Master)
    (operation : Operation) (outcome : Poll Claiming (Except MasterError Reply) × Master)
    : Prop where
  serves : master.Serves origin allowed (operation.accepted outcome.1) outcome.2
  waits : ∀ claiming, outcome.1 = .pending claiming
    → allowed claiming.operation ∧ master.Knows claiming

theorem settles_start (master : Master) {origin : Origin} {operation : Operation}
    {allowed : Operation → Prop} (permitted : allowed operation)
    : master.Settles origin allowed operation (master.start operation) := by
  unfold start
  cases resolved : master.resolve operation.handle with
  | error cause => exact ⟨.done, by simp⟩
  | ok slave =>
      have found := (get?_of_resolve resolved).1
      simp only
      cases empty : operation.isEmpty with
      | true =>
          refine ⟨?_, by simp⟩
          simp only [if_true, Operation.accepted, Operation.streams_of_isEmpty empty]
          exact .done
      | false =>
          simp only [Bool.false_eq_true, if_false]
          cases accepted : master.attempt slave operation with
          | none =>
              refine ⟨.done, ?_⟩
              intro claiming given
              cases given
              exact ⟨permitted, found⟩
          | some outcome =>
              obtain ⟨reply, next⟩ := outcome
              exact ⟨.one permitted found accepted, by simp⟩

theorem settles_resume {master : Master} {origin : Origin} {claiming : Claiming}
    {allowed : Operation → Prop} (permitted : allowed claiming.operation)
    (known : master.Knows claiming)
    : master.Settles origin allowed claiming.operation (master.resume claiming) := by
  unfold resume
  cases accepted : master.attempt claiming.slave claiming.operation with
  | none =>
      refine ⟨.done, ?_⟩
      intro waiting given
      cases given
      exact ⟨permitted, known⟩
  | some outcome =>
      obtain ⟨reply, next⟩ := outcome
      exact ⟨.one permitted known accepted, by simp⟩

end Master

end TwoWire
