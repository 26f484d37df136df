import TwoWire.Proofs.Turns

/-! A transfer of one byte, next to the operation that moves one byte without any memory.

Both drive the bus in the same way and leave the same master behind, but for the byte that a read
leaves in its window. No stream takes part in it. Longer transfers are moved by streams, but they
begin with the same commands.
-/

namespace TwoWire

open WireFrame
open Magnetometer

-----------------------------------------------------------------------------------------
-- One byte of memory
-----------------------------------------------------------------------------------------

namespace Memory

variable {memory : Memory} {window : Window} {held : UInt8}

theorem first_of_read (holds : memory.read window = [held])
    : memory.first window = held := by
  rw [first, holds]
  rfl

theorem read_of_one (memory : Memory) (one : window.length = 1)
    : memory.read window = (memory.bytes window.region)[window.offset]?.toList := by
  rw [read, one, List.take_one, List.head?_drop]

/-- A byte that is there takes the value that is written to it. -/
theorem read_write_of_one (one : window.length = 1) (holds : memory.read window = [held])
    (value : UInt8)
    : (memory.write window [value]).read window = [value] := by
  rw [read_of_one _ one] at holds ⊢
  rw [bytes_write_self, getElem?_overwrite, one]
  cases there : (memory.bytes window.region)[window.offset]? with
  | none => simp [there] at holds
  | some byte => simp

end Memory

-----------------------------------------------------------------------------------------
-- One byte on the bus
-----------------------------------------------------------------------------------------

/-- The frame of a single byte that was answered like this. -/
def Operation.frame? (address : UInt8) : Operation → Reply → Option WireFrame
  | .readByte _ register, .byte value => some (.readByte address register value)
  | .writeByte _ register value, .done => some (.writeByte address register value)
  | _, _ => none

namespace Master

/-- A single byte waits on a busy bus, or its frame is said and the bus is idle as before. -/
inductive Singly (master : Master) (slave : Slave) (operation : Operation)
    : Poll Claiming (Except MasterError Reply) × Master → Prop
  | waits (busy : (master.bus slave.bus).isBusy = true)
    : Singly master slave operation (.pending ⟨operation, slave⟩, master)
  | served {reply frame next} (free : (master.bus slave.bus).isBusy = false)
    (shape : operation.frame? slave.address reply = some frame)
    (speaks : master.Speaks slave.bus frame.commands next)
    (idle : (next.bus slave.bus).isBusy = false)
    : Singly master slave operation (.ready (.ok reply), next)

variable {master next : Master} {slave : Slave} {operation : Operation} {reply : Reply}

/-- A peripheral that is replaced on an idle bus, by one that was spoken to, leaves the bus idle. -/
theorem speaks_setBus {before after : Peripheral} {said : List Command} {bus : Bus}
    (here : master.peripheral? slave.bus = some before) (there : bus.peripheral = some after)
    (spoken : before.Says said after)
    : master.Speaks slave.bus said (master.setBus slave.bus bus) := by
  refine ⟨master.sameBut_setBus slave.bus bus, fun found same => ?_⟩
  obtain rfl := Option.some.inj (here.symm.trans same)
  exact ⟨after, by simpa [peripheral?] using there, spoken⟩

/-- A single byte that is served says its frame, by cases on its direction. -/
theorem singly_of_attempt (single : operation.IsSingle)
    (served : master.attempt slave operation = some (reply, next))
    : master.Singly slave operation (.ready (.ok reply), next) := by
  obtain ⟨peripheral, after, memory, free, here, driven, rfl⟩ := eq_of_attempt served
  have free : (master.bus slave.bus).isBusy = false := by simp [Bus.isBusy_eq, free]
  cases single with
  | readByte =>
      simp only [Operation.drive, Prod.mk.injEq] at driven
      obtain ⟨rfl, rfl, rfl⟩ := driven
      exact .served free rfl
        (speaks_setBus here rfl (peripheral.says_readRegister slave.address _))
        (by simp [Master.bus, setBus, Operation.transaction, Transaction.isStream, Bus.isBusy,
          HandleCell.isSome, HandleCell.empty])
  | writeByte =>
      simp only [Operation.drive, Prod.mk.injEq] at driven
      obtain ⟨rfl, rfl, rfl⟩ := driven
      exact .served free rfl
        (speaks_setBus here rfl (peripheral.says_writeRegister slave.address _ _))
        (by simp [Master.bus, setBus, Operation.transaction, Transaction.isStream, Bus.isBusy,
          HandleCell.isSome, HandleCell.empty])

/-- A single byte of a known slave is never refused, by cases on how it fares. -/
theorem singly_start (single : operation.IsSingle)
    (known : master.resolve operation.handle = .ok slave)
    : master.Singly slave operation (master.start operation) := by
  have begins := master.begins_start operation
  generalize master.start operation = outcome at begins ⊢
  cases begins with
  | refused unknown => simp [known] at unknown
  | nothing _ empty => simp [single.isEmpty_eq] at empty
  | waits found _ _ busy =>
      obtain rfl := Except.ok.inj (known.symm.trans found)
      exact .waits busy
  | served found _ accepted =>
      obtain rfl := Except.ok.inj (known.symm.trans found)
      exact singly_of_attempt single accepted

end Master

-----------------------------------------------------------------------------------------
-- Transfers of one byte
-----------------------------------------------------------------------------------------

/-- The operation that moves the byte of a request without any memory; a byte to write is given. -/
def Request.single (request : Request) (value : UInt8) : Operation :=
  match request.kind with
  | .read => .readByte request.handle request.register
  | .write => .writeByte request.handle request.register value

/-- The commands of a transfer up to the second address frame of a read, or up to the register
address of a write.
-/
def Request.head (request : Request) (address : UInt8) : List Command :=
  match request.kind with
  | .read => selection address request.register ++ turnaround address
  | .write => selection address request.register

/-- The command arms or disables a stream, or changes how the peripheral works with streams. -/
def Command.concernsStreams : Command → Bool
  | lastTransfer _ | dmaRequests _ | arm .. | disable _ => true
  | _ => false

/-- The byte that a window holds after a reply that is put into it. -/
def Reply.held (before : UInt8) : Reply → UInt8
  | .done => before
  | .byte value => value

@[simp] theorem Request.handle_single (request : Request) (value : UInt8)
    : (request.single value).handle = request.handle := by
  unfold single
  cases request.kind <;> rfl

theorem Request.isSingle_single (request : Request) (value : UInt8)
    : (request.single value).IsSingle := by
  unfold single
  cases request.kind with
  | read => exact .readByte
  | write => exact .writeByte

/-- A byte that moves alone is read and answered, or it is written. -/
theorem Request.frame?_single {request : Request} {value address : UInt8} {reply : Reply}
    {frame : WireFrame} (shape : (request.single value).frame? address reply = some frame)
    : (request.kind = .read
        ∧ ∃ byte, reply = .byte byte ∧ frame = .readByte address request.register byte)
      ∨ request.kind = .write
        ∧ reply = .done
        ∧ frame = .writeByte address request.register value := by
  obtain ⟨kind, handle, register, window⟩ := request
  cases kind <;> cases reply <;> simp_all [single, Operation.frame?]

/-- A byte that moves alone begins like any transfer. -/
theorem Request.head_of_frame? {request : Request} {value address : UInt8} {reply : Reply}
    {frame : WireFrame} (shape : (request.single value).frame? address reply = some frame)
    : request.head address <+: frame.commands := by
  rcases request.frame?_single shape with ⟨kind, byte, rfl, rfl⟩ | ⟨kind, rfl, rfl⟩ <;>
    simp [head, kind, WireFrame.commands]

theorem concernsStreams_selection (address : UInt8) (register : RegisterAddress)
    : ∀ command ∈ selection address register, command.concernsStreams = false := by
  obtain ⟨width, number⟩ := register
  cases width <;> simp [selection, Command.concernsStreams]

/-- No stream takes part in a byte that moves alone. -/
theorem Request.concernsStreams_of_frame? {request : Request} {value address : UInt8}
    {reply : Reply} {frame : WireFrame}
    (shape : (request.single value).frame? address reply = some frame)
    : ∀ command ∈ frame.commands, command.concernsStreams = false := by
  have selected := concernsStreams_selection address request.register
  rcases request.frame?_single shape with ⟨-, byte, rfl, rfl⟩ | ⟨-, rfl, rfl⟩ <;>
    simpa [WireFrame.commands, turnaround, Command.concernsStreams, or_imp, forall_and]
      using selected

namespace Master

variable {master next : Master} {slave : Slave} {request : Request} {reply : Reply}
  {held : UInt8}

/-- Put the byte of a reply into a window, if there is one. -/
def put (master : Master) (window : Window) : Reply → Master
  | .done => master
  | .byte value => { master with memory := master.memory.write window [value] }

/-- A window of one byte holds what was put into it. -/
theorem read_put (one : request.window.length = 1)
    (holds : master.memory.read request.window = [held]) (reply : Reply)
    : (master.put request.window reply).memory.read request.window = [reply.held held] := by
  cases reply with
  | done => exact holds
  | byte value => exact Memory.read_write_of_one one holds value

/-- A transfer of one byte is served like the byte alone, by cases on its kind. -/
theorem attempt_of_one (one : request.window.length = 1) (slave : Slave)
    : master.attempt slave (.transfer request)
      = (master.attempt slave (request.single (master.memory.first request.window))).map
          fun outcome => (.done, outcome.2.put request.window outcome.1) := by
  obtain ⟨kind, handle, register, window⟩ := request
  have short : ¬ 2 ≤ window.length := by
    have : window.length = 1 := one
    omega
  cases kind with
  | read =>
      simp only [attempt, Operation.transaction, Request.transaction, Request.single,
        Operation.drive, short, if_false, Option.bind_eq_bind]
      cases (master.bus slave.bus).claim (.readByte handle register) with
      | none => rfl
      | some bus =>
          rw [Option.bind_some, Option.bind_some]
          cases bus.peripheral <;> rfl
  | write =>
      simp only [attempt, Operation.transaction, Request.transaction, Request.single,
        Operation.drive, short, if_false, Option.bind_eq_bind]
      cases (master.bus slave.bus).claim
          (.writeByte handle register (master.memory.first window)) with
      | none => rfl
      | some bus =>
          rw [Option.bind_some, Option.bind_some]
          cases bus.peripheral <;> rfl

/-- A transfer of one byte begins as the byte does alone, and its reply goes to memory. -/
theorem start_of_one (one : request.window.length = 1)
    (holds : master.memory.read request.window = [held])
    : (∃ cause,
        master.resolve request.handle = .error cause
        ∧ master.start (.transfer request) = (.ready (.error cause), master)
        ∧ master.start (request.single held) = (.ready (.error cause), master))
      ∨ (∃ slave,
        (master.bus slave.bus).isBusy = true
        ∧ master.start (.transfer request) = (.pending ⟨.transfer request, slave⟩, master)
        ∧ master.start (request.single held)
          = (.pending ⟨request.single held, slave⟩, master))
      ∨ ∃ slave reply frame next,
        master.resolve request.handle = .ok slave
        ∧ (master.bus slave.bus).isBusy = false
        ∧ (request.single held).frame? slave.address reply = some frame
        ∧ master.Speaks slave.bus frame.commands next
        ∧ (next.bus slave.bus).isBusy = false
        ∧ master.start (request.single held) = (.ready (.ok reply), next)
        ∧ master.start (.transfer request)
          = (.ready (.ok .done), next.put request.window reply) := by
  have single := request.isSingle_single held
  have filled : (Operation.transfer request).isEmpty = false := by
    simp [Operation.isEmpty, one]
  have alike (slave : Slave)
      : master.attempt slave (.transfer request)
        = (master.attempt slave (request.single held)).map
            fun outcome => (.done, outcome.2.put request.window outcome.1) :=
    Memory.first_of_read holds ▸ attempt_of_one one slave
  have begins := master.begins_start (request.single held)
  cases begun : master.start (request.single held) with
  | mk outcome next =>
      rw [begun] at begins
      cases begins with
      | @refused cause unknown =>
          rw [Request.handle_single] at unknown
          refine .inl ⟨cause, unknown, ?_, rfl⟩
          simp only [start, Operation.handle, unknown]
      | nothing _ empty => simp [single.isEmpty_eq] at empty
      | @waits slave known _ failed busy =>
          rw [Request.handle_single] at known
          refine .inr (.inl ⟨slave, busy, ?_, rfl⟩)
          simp [start, Operation.handle, known, filled, alike, failed]
      | @served slave reply _ known _ accepted free =>
          rw [Request.handle_single] at known
          cases singly_of_attempt single accepted with
          | @served _ frame _ free shape speaks idle =>
              refine .inr (.inr ⟨slave, reply, frame, next, known, free, shape, speaks, idle, rfl,
                ?_⟩)
              simp [start, Operation.handle, known, filled, alike, accepted]

/-- A longer transfer on an idle bus says what one byte says first, by cases on its kind. -/
theorem start_of_long (long : 2 ≤ request.window.length)
    (known : master.resolve request.handle = .ok slave)
    (free : (master.bus slave.bus).isBusy = false)
    : ∃ next,
        master.start (.transfer request) = (.ready (.ok .done), next)
        ∧ request.head slave.address <+: master.saidUntil next slave.bus := by
  have begins := master.begins_start (.transfer request)
  generalize master.start (.transfer request) = outcome at begins ⊢
  cases begins with
  | refused unknown => simp [Operation.handle, known] at unknown
  | nothing _ empty =>
      have : request.window.length = 0 := of_decide_eq_true empty
      omega
  | waits found _ _ busy =>
      obtain rfl := Except.ok.inj (known.symm.trans found)
      simp [free] at busy
  | @served found reply next there _ accepted _ =>
      obtain rfl := Except.ok.inj (known.symm.trans there)
      obtain rfl := reply_of_attempt accepted
      refine ⟨next, rfl, ?_⟩
      obtain ⟨before, after, memory, -, here, driven, rfl⟩ := eq_of_attempt accepted
      obtain ⟨kind, handle, register, window⟩ := request
      have long : 2 ≤ window.length := long
      cases kind with
      | read =>
          simp only [Operation.drive, long, if_true, Prod.mk.injEq, true_and] at driven
          obtain ⟨rfl, rfl⟩ := driven
          have opened := before.leaves_openRead slave.address register window
          rw [saidUntil_of_commands here
            (by simp [peripheral?, Master.bus, setBus]) opened.commands]
          simp [Request.head, opening]
      | write =>
          simp only [Operation.drive, long, if_true, Prod.mk.injEq, true_and] at driven
          obtain ⟨rfl, rfl⟩ := driven
          have opened := before.leaves_openWrite slave.address register window
          rw [saidUntil_of_commands here
            (by simp [peripheral?, Master.bus, setBus]) opened.commands]
          simp [Request.head, opening]

end Master

-----------------------------------------------------------------------------------------
-- Polls that complete
-----------------------------------------------------------------------------------------

/-- It is neither waited for a busy bus nor refused because of one. -/
structure Answer.Completes (answer : Answer) : Prop where
  waits : answer.result ≠ .pending
  refused : answer.result ≠ .masterError .busy

namespace Bench

/-- An action that tries to do an operation: its first poll, a later poll of the task that waits
with it, and for a transfer also asking for it without waiting.
-/
inductive Tries (bench : Bench) : Operation → Action → Prop
  | first (operation : Operation) (number : Option Nat)
    : Tries bench operation (.start operation number)
  | again {number : Nat} {rest : Claiming}
    (waiting : bench.task? number = some (.operation rest))
    : Tries bench rest.operation (.poll number)
  | once (request : Request) : Tries bench (.transfer request) (.tryTransfer request)

variable {bench : Bench} {operation : Operation} {action : Action} {request : Request}
  {held : UInt8}

/-- This is what comes of an operation that begins in a state: it is answered and the master is left
as the operation leaves it, or it does not complete.
-/
structure Renders (bench : Bench) (operation : Operation) (outcome : Answer × Bench) : Prop where
  waits
    : ∀ {rest next},
        bench.master.start operation = (.pending rest, next)
        → ¬ outcome.1.Completes
  answers
    : ∀ {answer next},
        bench.master.start operation = (.ready answer, next)
        → ∃ after,
            outcome = (.ofResult (.ofMaster .ofReply answer), after)
            ∧ after.master = next

theorem renders_start (bench : Bench) (operation : Operation) (number : Option Nat)
    : bench.Renders operation (bench.step (.start operation number)) where
  waits begun completes := completes.waits (by simp only [step, begun]; rfl)
  answers begun := by
    simp only [step, begun]
    exact ⟨_, rfl, rfl⟩

/-- Asking without waiting comes to the same as beginning, but that a busy bus refuses it. -/
theorem renders_tryTransfer (bench : Bench) (request : Request)
    : bench.Renders (.transfer request) (bench.step (.tryTransfer request)) where
  waits begun completes := by
    rcases Master.tryTransfer_of_start begun with
      ⟨_, -, -, tried⟩ | ⟨_, ready, -⟩ | ⟨ready, -⟩
    · exact completes.refused (by simp only [step, tried]; rfl)
    · cases ready
    · cases ready
  answers begun := by
    rcases Master.tryTransfer_of_start begun with
      ⟨_, waits, -⟩ | ⟨cause, ready, -, tried⟩ | ⟨ready, tried⟩
    · cases waits
    · cases ready
      simp only [step, tried]
      exact ⟨_, rfl, rfl⟩
    · cases ready
      simp only [step, tried]
      exact ⟨_, rfl, rfl⟩

/-- Whichever way an operation is tried, it comes to what would come of it if it began now. -/
theorem Tries.renders (tries : bench.Tries operation action) (grounded : bench.Grounded)
    : bench.Renders operation (bench.step action) := by
  cases tries with
  | first _ number => exact bench.renders_start operation number
  | again waiting =>
      rw [grounded.poll_eq_start waiting]
      exact bench.renders_start _ _
  | once request => exact bench.renders_tryTransfer request

/-- A byte was moved by a transfer and by itself, and both did the same: nothing, since the slave is
unknown, or the frame of one byte on an idle bus, which is idle again. The streams had no part in
it, and the window holds the byte.
-/
inductive MovesAlike (bench : Bench) (request : Request) (held : UInt8)
    : Answer × Bench → Answer × Bench → Prop
  | refused {cause next other} (unknown : bench.master.resolve request.handle = .error cause)
    (left : next.master = bench.master) (alike : other.master = bench.master)
    : MovesAlike bench request held (.ofResult (.masterError cause), next)
        (.ofResult (.masterError cause), other)
  | moved {slave reply frame next other}
    (known : bench.master.resolve request.handle = .ok slave)
    (free : (bench.master.bus slave.bus).isBusy = false)
    (shape : (request.single held).frame? slave.address reply = some frame)
    (speaks : bench.master.Speaks slave.bus frame.commands other.master)
    (quiet : ∀ command ∈ frame.commands, command.concernsStreams = false)
    (idle : (other.master.bus slave.bus).isBusy = false)
    (alike : next.master = other.master.put request.window reply)
    (holds : next.master.memory.read request.window = [reply.held held])
    : MovesAlike bench request held (.ofResult .done, next) (.ofResult (.ofReply reply), other)

theorem completes_of_reply (reply : Reply)
    : (Answer.ofResult (.ofReply reply)).Completes := by
  cases reply <;> exact ⟨by simp [Answer.ofResult, Result.ofReply],
    by simp [Answer.ofResult, Result.ofReply]⟩

/-- A transfer of one byte completes exactly when the byte alone does, and then they do the same, by
cases on how they begin.
-/
theorem Grounded.movesAlike (grounded : bench.Grounded) {asked plain : Action}
    (one : request.window.length = 1) (holds : bench.master.memory.read request.window = [held])
    (asks : bench.Tries (.transfer request) asked)
    (moves : bench.Tries (request.single held) plain)
    : ((bench.step asked).1.Completes ↔ (bench.step plain).1.Completes)
      ∧ ((bench.step asked).1.Completes
        → bench.MovesAlike request held (bench.step asked) (bench.step plain)) := by
  have outcome := asks.renders grounded
  have other := moves.renders grounded
  rcases Master.start_of_one one holds with
    ⟨cause, unknown, begun, single⟩ | ⟨slave, -, begun, single⟩
    | ⟨slave, reply, frame, next, known, free, shape, speaks, idle, single, begun⟩
  · obtain ⟨after, answered, left⟩ := outcome.answers begun
    obtain ⟨last, replied, alike⟩ := other.answers single
    rw [answered, replied]
    exact ⟨.rfl, fun _ => .refused unknown left alike⟩
  · exact ⟨⟨fun completes => absurd completes (outcome.waits begun),
      fun completes => absurd completes (other.waits single)⟩,
      fun completes => absurd completes (outcome.waits begun)⟩
  · obtain ⟨after, answered, left⟩ := outcome.answers begun
    obtain ⟨last, replied, rfl⟩ := other.answers single
    rw [answered, replied]
    have kept : last.master.memory.read request.window = [held] := by
      rw [speaks.same]
      exact holds
    refine ⟨⟨fun _ => completes_of_reply reply, fun _ => completes_of_reply .done⟩, fun _ => ?_⟩
    refine .moved known free shape speaks (request.concernsStreams_of_frame? shape) idle left ?_
    rw [left]
    exact Master.read_put one kept reply

/-- A longer transfer that is tried where a byte has moved is begun, and says first what the byte
said first.
-/
theorem Grounded.begins_alike (grounded : bench.Grounded) {slave : Slave} {opened : Action}
    (long : 2 ≤ request.window.length)
    (known : bench.master.resolve request.handle = .ok slave)
    (free : (bench.master.bus slave.bus).isBusy = false)
    (tries : bench.Tries (.transfer request) opened)
    : (bench.step opened).1 = .ofResult .done
      ∧ request.head slave.address
        <+: bench.master.saidUntil (bench.step opened).2.master slave.bus := by
  obtain ⟨next, begun, said⟩ := Master.start_of_long long known free
  obtain ⟨after, answered, left⟩ := (tries.renders grounded).answers begun
  rw [answered, left]
  exact ⟨rfl, said⟩

-----------------------------------------------------------------------------------------
-- Every run
-----------------------------------------------------------------------------------------

/-- In every state that a run leads to, a transfer of one byte completes exactly when the operation
on that byte alone does, and then they do the same. Neither answer comes with a notice, so no
reaction runs. A longer transfer that is tried there begins with the same commands, up to the second
address frame of a read and up to the register address of a write. Only commands are on the wire;
which status is asked for between them may differ.
-/
theorem single_bytes_agree {capacity : Fin 255} {paces : PerBus (Option Pace)}
    {buffers : List (List UInt8)} {sensors : List (Config × Nat)} {actions : List Action}
    {request : Request} {held : UInt8} {asked plain : Action}
    (one : request.window.length = 1)
    (holds
      : ((assemble capacity paces buffers sensors).run actions).2.master.memory.read request.window
        = [held])
    (asks
      : ((assemble capacity paces buffers sensors).run actions).2.Tries (.transfer request) asked)
    (moves
      : ((assemble capacity paces buffers sensors).run actions).2.Tries (request.single held) plain)
    : let bench := ((assemble capacity paces buffers sensors).run actions).2
      ((bench.step asked).1.Completes ↔ (bench.step plain).1.Completes)
      ∧ ((bench.step asked).1.Completes
        → bench.MovesAlike request held (bench.step asked) (bench.step plain)
          ∧ ∀ slave, bench.master.resolve request.handle = .ok slave
            → request.head slave.address
                <+: bench.master.saidUntil (bench.step plain).2.master slave.bus
              ∧ ∀ long opened, long.kind = request.kind
                → long.handle = request.handle
                → long.register = request.register
                → 2 ≤ long.window.length
                → bench.Tries (.transfer long) opened
                → (bench.step opened).1 = .ofResult .done
                  ∧ request.head slave.address
                    <+: bench.master.saidUntil (bench.step opened).2.master slave.bus) := by
  have grounded := (grounded_assemble capacity paces buffers sensors).run actions
  generalize ((assemble capacity paces buffers sensors).run actions).2 = bench
    at grounded holds asks moves ⊢
  obtain ⟨both, alike⟩ := grounded.movesAlike one holds asks moves
  refine ⟨both, fun completes => ⟨alike completes, fun slave known => ?_⟩⟩
  have same := alike completes
  generalize bench.step asked = outcome at same
  generalize bench.step plain = other at same ⊢
  cases same with
  | refused unknown => simp [known] at unknown
  | moved found free shape speaks =>
      obtain rfl := Except.ok.inj (known.symm.trans found)
      obtain ⟨-, peripheral, here⟩ := Master.get?_of_resolve known
      refine ⟨?_, ?_⟩
      · rw [speaks.saidUntil (Option.isSome_of_eq_some here)]
        exact request.head_of_frame? shape
      · rintro ⟨kind, handle, register, window⟩ opened rfl rfl rfl long tries
        have begun := grounded.begins_alike long known free tries
        exact begun

/-- A read of one byte and the byte alone have both waited for a longer read. The byte comes from a
slave with wide register addresses, and it is found in the middle of a buffer.
-/
theorem single_bytes_agree_after_waiting
    : let request : Request := ⟨.read, ⟨0⟩, ⟨.bits16, 0x1234⟩, ⟨.buffer 0, 1, 1⟩⟩
      let bench :=
        ((assemble 2 ⟨some .instant, none, none⟩ [[7, 8, 9]] []).run
          [.register ⟨.i2c1, 0x50, .none⟩, .arrange .i2c1 (.enqueue [0x5A, 0x5B]),
            .tryTransfer ⟨.read, ⟨0⟩, ⟨.bits16, 0x0040⟩, ⟨.buffer 0, 0, 3⟩⟩,
            .start (.transfer request) (some 3),
            .start (.readByte ⟨0⟩ ⟨.bits16, 0x1234⟩) (some 4),
            .deliver .i2c1 [1, 2, 3], .complete .i2c1 .rx]).2
      bench.MovesAlike request 2 (bench.step (.poll 3)) (bench.step (.poll 4))
      ∧ (bench.step (.poll 4)).1.result = .byte 0x5A
      ∧ (bench.step (.poll 3)).2.master.memory.buffers = [[1, 0x5A, 3]] := by
  intro request bench
  have asks : bench.Tries (.transfer request) (.poll 3) := by
    have waiting
        : bench.task? 3 = some (.operation ⟨.transfer request, ⟨.i2c1, 0x50, .none⟩⟩) := by
      rfl
    exact .again waiting
  have moves : bench.Tries (request.single 2) (.poll 4) := by
    have waiting
        : bench.task? 4 = some (.operation ⟨request.single 2, ⟨.i2c1, 0x50, .none⟩⟩) := by
      rfl
    exact .again waiting
  have holds : bench.master.memory.read request.window = [2] := by decide
  have done : (bench.step (.poll 3)).1 = .ofResult .done := by rfl
  obtain ⟨-, alike⟩ := single_bytes_agree rfl holds asks moves
  have completes : (bench.step (.poll 3)).1.Completes := done ▸ completes_of_reply .done
  exact ⟨(alike completes).1, by rfl, by decide⟩

end Bench

end TwoWire
