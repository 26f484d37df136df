import TwoWire.Proofs.BusOwnership
import TwoWire.Proofs.MemoryFrame

/-! Frames never interleave on the wire.

Whatever the order in which clients, probes, interrupts and captures get their turns, the commands
on a bus are the frames of its transactions one after the other. The last frame is unfinished
while the bus is owned, and each event either adds to that frame, ends it, or begins the next one.
-/

namespace TwoWire

open Scene
open WireFrame
open Magnetometer

namespace Bus

/-- The frame belongs to the transaction beside it, which was with a slave of this bus. -/
def IsFramed (slaves : SlaveTable) (id : BusId) (entry : Transaction × WireFrame) : Prop :=
  ∃ slave,
    slaves.get? entry.1.handle = some slave ∧ slave.bus = id ∧ entry.2.IsOf slave entry.1

/-- The transaction that goes on, with the frame that it has begun. A probe has said one refusal
for each trial that it spent, and an acknowledgement may come next.
-/
inductive Unfinished (slaves : SlaveTable) (bus : Bus)
    : Option Nat → Option (Transaction × WireFrame) → Prop
  | nothing {left} (free : bus.owner = none) : Unfinished slaves bus left none
  | stream {kind handle register window slave} (held : bus.owner = some handle)
    (found : slaves.get? handle = some slave)
    : Unfinished slaves bus none
        (some (.stream kind handle register window,
          .stream kind slave.address register window.length))
  | probe {handle slave left} (held : bus.owner = some handle)
    (found : slaves.get? handle = some slave) (few : left ≤ Standby.trials)
    : Unfinished slaves bus (some left)
        (some (.probe handle, .probe slave.address (Standby.trials - left) true))

/-- The records of a bus are the frames of what it served, and what was begun of the last one. -/
structure Records (slaves : SlaveTable) (id : BusId) (bus : Bus) (peripheral : Peripheral)
    (done : List (Transaction × WireFrame)) (last : Option (Transaction × WireFrame))
    : Prop where
  served : bus.served = (done ++ last.toList).map Prod.fst
  framed : ∀ entry ∈ done, IsFramed slaves id entry
  begun : ∀ entry ∈ last, IsFramed slaves id entry
  commands
    : peripheral.commands
      = (if bus.configured then [.configure] else [])
        ++ done.flatMap (fun entry => entry.2.commands)
        ++ last.toList.flatMap (fun entry => entry.2.begun)
  log : peripheral.log = peripheral.commands.take Peripheral.logCapacity

/-- The wire of a bus carries the frames of its transactions in their order. -/
def Ordered (slaves : SlaveTable) (id : BusId) (bus : Bus) (left : Option Nat) : Prop :=
  ∀ peripheral, bus.peripheral = some peripheral
    → ∃ done last,
        bus.Records slaves id peripheral done last ∧ bus.Unfinished slaves left last

variable {slaves more : SlaveTable} {id : BusId} {bus next : Bus} {left spare : Option Nat}
  {event : Scene.Event} {peripheral told : Peripheral}
  {done : List (Transaction × WireFrame)} {last : Option (Transaction × WireFrame)}
  {transaction : Transaction} {frame : WireFrame}

theorem IsFramed.mono {entry : Transaction × WireFrame} (framed : IsFramed slaves id entry)
    (known : ∀ {handle slave}, slaves.get? handle = some slave → more.get? handle = some slave)
    : IsFramed more id entry := by
  obtain ⟨slave, found, home, shape⟩ := framed
  exact ⟨slave, known found, home, shape⟩

/-- An idle bus has no unfinished frame. -/
theorem Unfinished.eq_none (unfinished : bus.Unfinished slaves left last)
    (free : bus.owner = none)
    : last = none := by
  cases unfinished with
  | nothing => rfl
  | stream held | probe held => simp [free] at held

/-- Records go on with what is said, if that is what the frames have grown by. -/
theorem Records.after {said : List Command} {streams : StreamState}
    {longer : List (Transaction × WireFrame)} {open? : Option (Transaction × WireFrame)}
    (records : bus.Records slaves id peripheral done last)
    (leaves : peripheral.Leaves said streams told) (configured : next.configured = bus.configured)
    (served : next.served = (longer ++ open?.toList).map Prod.fst)
    (framed : ∀ entry ∈ longer, IsFramed slaves id entry)
    (begun : ∀ entry ∈ open?, IsFramed slaves id entry)
    (grown
      : longer.flatMap (fun entry => entry.2.commands)
          ++ open?.toList.flatMap (fun entry => entry.2.begun)
        = done.flatMap (fun entry => entry.2.commands)
          ++ last.toList.flatMap (fun entry => entry.2.begun)
          ++ said)
    : next.Records slaves id told longer open? where
  served := served
  framed := framed
  begun := begun
  commands := by
    rw [leaves.commands, records.commands, configured]
    simp only [List.append_assoc] at grown ⊢
    rw [grown]
  log := leaves.log_eq_take records.log

/-- Nothing is said, and the records stay as they are. -/
theorem Records.silent {streams : StreamState}
    (records : bus.Records slaves id peripheral done last)
    (leaves : peripheral.Leaves [] streams told) (served : next.served = bus.served)
    (configured : next.configured = bus.configured)
    : next.Records slaves id told done last :=
  records.after leaves configured (served.trans records.served) records.framed records.begun
    (List.append_nil _).symm

/-- A transaction that is given an idle bus begins a frame. -/
theorem Records.begins {streams : StreamState}
    (records : bus.Records slaves id peripheral done none)
    (framed : IsFramed slaves id (transaction, frame))
    (leaves : peripheral.Leaves frame.begun streams told)
    (served : next.served = bus.served ++ [transaction])
    (configured : next.configured = bus.configured)
    : next.Records slaves id told done (some (transaction, frame)) :=
  records.after leaves configured (by simp [served, records.served]) records.framed
    (by simpa using framed) (by simp)

/-- A transaction that says its whole frame at once leaves the bus idle. -/
theorem Records.passes {streams : StreamState}
    (records : bus.Records slaves id peripheral done none)
    (framed : IsFramed slaves id (transaction, frame))
    (leaves : peripheral.Leaves frame.commands streams told)
    (served : next.served = bus.served ++ [transaction])
    (configured : next.configured = bus.configured)
    : next.Records slaves id told (done ++ [(transaction, frame)]) none := by
  refine records.after leaves configured (by simp [served, records.served]) ?_ (by simp)
    (by simp)
  intro entry member
  rcases List.mem_append.mp member with old | new
  · exact records.framed entry old
  · exact List.mem_singleton.mp new ▸ framed

/-- The unfinished frame goes on: what was begun of it grows by what is said. -/
theorem Records.grows {said : List Command} {streams : StreamState} {shorter : WireFrame}
    (records : bus.Records slaves id peripheral done (some (transaction, shorter)))
    (framed : IsFramed slaves id (transaction, frame))
    (leaves : peripheral.Leaves said streams told)
    (longer : frame.begun = shorter.begun ++ said)
    (served : next.served = bus.served) (configured : next.configured = bus.configured)
    : next.Records slaves id told done (some (transaction, frame)) :=
  records.after leaves configured (by simp [served, records.served]) records.framed
    (by simpa using framed) (by simp [longer])

/-- The unfinished frame ends: what is said completes what was begun of it. -/
theorem Records.ends {said : List Command} {streams : StreamState} {shorter : WireFrame}
    (records : bus.Records slaves id peripheral done (some (transaction, shorter)))
    (framed : IsFramed slaves id (transaction, frame))
    (leaves : peripheral.Leaves said streams told)
    (whole : frame.commands = shorter.begun ++ said)
    (served : next.served = bus.served) (configured : next.configured = bus.configured)
    : next.Records slaves id told (done ++ [(transaction, frame)]) none := by
  refine records.after leaves configured (by simp [served, records.served]) ?_ (by simp)
    (by simp [whole])
  intro entry member
  rcases List.mem_append.mp member with old | new
  · exact records.framed entry old
  · exact List.mem_singleton.mp new ▸ framed

section Probes

variable {handle : Handle} {slave : Slave} {before count : Nat} {streams : StreamState}

/-- The frame of a probe grows by the trials that are refused, as long as one is left. -/
theorem Records.refused
    (records
      : bus.Records slaves id peripheral done
          (some (.probe handle, .probe slave.address before true)))
    (found : slaves.get? handle = some slave) (home : slave.bus = id)
    (left : before + count < Standby.trials)
    (leaves : peripheral.Leaves (refusals slave.address count) streams told)
    (served : next.served = bus.served) (configured : next.configured = bus.configured)
    : next.Records slaves id told done
        (some (.probe handle, .probe slave.address (before + count) true)) :=
  records.grows ⟨slave, found, home, .acknowledged left⟩ leaves (refusals_add _ before count)
    served configured

/-- The frame of a probe ends with the first trial that is acknowledged. -/
theorem Records.acknowledged
    (records
      : bus.Records slaves id peripheral done
          (some (.probe handle, .probe slave.address before true)))
    (found : slaves.get? handle = some slave) (home : slave.bus = id)
    (left : before + count < Standby.trials)
    (leaves
      : peripheral.Leaves (refusals slave.address count ++ acknowledgement slave.address)
          streams told)
    (served : next.served = bus.served) (configured : next.configured = bus.configured)
    : next.Records slaves id told
        (done ++ [(.probe handle, .probe slave.address (before + count) true)]) none := by
  refine records.ends ⟨slave, found, home, .acknowledged left⟩ leaves ?_ served configured
  simp [WireFrame.commands, WireFrame.begun, refusals_add]

/-- If none is acknowledged, it ends with a stop condition after the last trial. -/
theorem Records.exhausted
    (records
      : bus.Records slaves id peripheral done
          (some (.probe handle, .probe slave.address before true)))
    (found : slaves.get? handle = some slave) (home : slave.bus = id)
    (spent : before + count = Standby.trials)
    (leaves : peripheral.Leaves (refusals slave.address count ++ [.stop]) streams told)
    (served : next.served = bus.served) (configured : next.configured = bus.configured)
    : next.Records slaves id told
        (done ++ [(.probe handle, .probe slave.address Standby.trials false)]) none := by
  refine records.ends ⟨slave, found, home, .exhausted⟩ leaves ?_ served configured
  simp [WireFrame.commands, WireFrame.begun, ← spent, refusals_add]

end Probes

/-- A bus that has no records of transactions and is idle has nothing unfinished. -/
theorem Records.eq_nil (records : bus.Records slaves id peripheral done last)
    (unused : bus.served = [])
    : done = [] ∧ last = none := by
  have empty := records.served.symm.trans unused
  simpa using empty

/-- On a bus with trials left a probe is unfinished. -/
theorem Unfinished.of_budget {trials : Nat} {handle : Handle} {slave : Slave}
    (unfinished : bus.Unfinished slaves (some trials) last) (held : bus.owner = some handle)
    (found : slaves.get? handle = some slave)
    : last
        = some (.probe handle, .probe slave.address (Standby.trials - trials) true)
      ∧ trials ≤ Standby.trials := by
  cases unfinished with
  | nothing free => simp [free] at held
  | probe own known few =>
      obtain rfl := Option.some.inj (own.symm.trans held)
      obtain rfl := Option.some.inj (known.symm.trans found)
      exact ⟨rfl, few⟩

/-- On an owned bus without trials left a stream is unfinished. -/
theorem Unfinished.of_stream {handle : Handle} {slave : Slave}
    (unfinished : bus.Unfinished slaves none last) (held : bus.owner = some handle)
    (found : slaves.get? handle = some slave)
    : ∃ kind register window,
        last
        = some (.stream kind handle register window,
            .stream kind slave.address register window.length) := by
  cases unfinished with
  | nothing free => simp [free] at held
  | stream own known =>
      obtain rfl := Option.some.inj (own.symm.trans held)
      obtain rfl := Option.some.inj (known.symm.trans found)
      exact ⟨_, _, _, rfl⟩

/-- Whether something is unfinished depends on the owner of the bus only. -/
theorem Unfinished.of_active (unfinished : bus.Unfinished slaves left last)
    (active : next.active = bus.active)
    : next.Unfinished slaves left last := by
  have owner : next.owner = bus.owner := by rw [owner, owner, active]
  cases unfinished with
  | nothing free => exact .nothing (owner.trans free)
  | stream held found => exact .stream (owner.trans held) found
  | probe held found few => exact .probe (owner.trans held) found few

/-- Every event but the erasure of the records keeps the frames in order, by cases on what it does
to the bus.
-/
theorem Turn.ordered (turn : bus.Turn slaves id left event next spare) (fits : slaves.Fits)
    (coherent : bus.Coherent slaves id left)
    (ready : bus.configured = false → bus.served = []) (kept : event ≠ .forget id)
    (ordered : bus.Ordered slaves id left)
    : next.Ordered slaves id spare := by
  cases turn with
  | @prepare old here new =>
      obtain ⟨done, last, records, unfinished⟩ := ordered _ here
      obtain ⟨rfl, rfl⟩ := records.eq_nil (ready new)
      have said := old.says_issue .configure
      intro peripheral given
      cases given
      refine ⟨[], none, ⟨records.served, by simp, by simp, ?_, ?_⟩, unfinished.of_active rfl⟩
      · rw [Peripheral.configure, said.commands, records.commands]
        simp [new]
      · exact said.log_eq_take records.log
  | serveByte found home free here single shape said =>
      obtain ⟨done, last, records, unfinished⟩ := ordered _ here
      obtain rfl := unfinished.eq_none free
      intro peripheral given
      cases given
      exact ⟨_, _, records.passes ⟨_, found, home, shape⟩ said rfl rfl, .nothing rfl⟩
  | @serveStream _ slave request _ _ found home free here long opened =>
      obtain ⟨done, last, records, unfinished⟩ := ordered _ here
      obtain rfl := unfinished.eq_none free
      obtain ⟨rfl, -⟩ := coherent.quiet_of_free free here
      have held := HandleCell.load_store_some (fits.code_ne_vacant found)
      have framed
          : IsFramed slaves id
              (.stream request.kind request.handle request.register request.window,
                .stream request.kind slave.address request.register request.window.length) :=
        ⟨slave, found, home, .stream⟩
      intro peripheral given
      cases given
      exact ⟨_, _, records.begins framed opened rfl rfl, .stream held found⟩
  | @claim slave handle _ found home free here =>
      obtain ⟨done, last, records, unfinished⟩ := ordered _ here
      obtain rfl := unfinished.eq_none free
      have held := HandleCell.load_store_some (fits.code_ne_vacant found)
      have framed : IsFramed slaves id (.probe handle, .probe slave.address 0 true) :=
        ⟨slave, found, home, .acknowledged (by decide)⟩
      intro peripheral there
      obtain rfl := Option.some.inj (here.symm.trans there)
      exact ⟨_, _, records.begins framed (Peripheral.says_nothing _) rfl rfl,
        .probe held found (Nat.le_refl _)⟩
  | @pause slave handle trials paused _ told found home held budget here tried =>
      subst budget
      obtain ⟨done, last, records, unfinished⟩ := ordered _ here
      obtain ⟨rfl, few⟩ := unfinished.of_budget held found
      cases tried with
      | paused some fewer said =>
          have spent
              : Standby.trials - trials + (trials - paused.trials)
                = Standby.trials - paused.trials := by
            omega
          intro peripheral given
          cases given
          refine ⟨done, _, ?_, .probe held found (by omega)⟩
          rw [← spent]
          exact records.refused found home (by omega) said rfl rfl
  | @conclude slave handle trials acknowledged _ told found home held budget here tried =>
      subst budget
      obtain ⟨done, last, records, unfinished⟩ := ordered _ here
      obtain ⟨rfl, few⟩ := unfinished.of_budget held found
      intro peripheral given
      cases given
      cases tried with
      | acknowledged fewer said =>
          exact ⟨_, _, records.acknowledged found home (by omega) said rfl rfl, .nothing rfl⟩
      | exhausted said =>
          have stopped := said.andSays (Peripheral.says_issue _ .stop)
          exact ⟨_, _, records.exhausted found home (Nat.sub_add_cancel few) stopped rfl rfl,
            .nothing rfl⟩
  | @land stream window data old here armed =>
      obtain ⟨done, last, records, unfinished⟩ := ordered _ here
      intro peripheral given
      cases given
      exact ⟨done, last, records.silent (old.leaves_land stream) rfl rfl,
        unfinished.of_active rfl⟩
  | @close kind slave handle old found held here flag =>
      obtain ⟨done, last, records, unfinished⟩ := ordered _ here
      obtain ⟨rfl, sent, owner, _, _, lives, same, held', found', home, given, -⟩ :=
        coherent.landed_of_completed here flag
      obtain rfl := Option.some.inj (held.symm.trans held')
      obtain rfl := Option.some.inj (found.symm.trans found')
      obtain ⟨opened, register, window, rfl⟩ := unfinished.of_stream held found
      -- the frame that ends is of the kind whose stream has completed
      have last := congrArg List.getLast? records.served
      rw [given] at last
      obtain ⟨rfl, -⟩ : sent = opened ∧ _ := by simpa using last
      obtain rfl := TransferKind.stream_injective same
      have closed := (old.leaves_takeCompleted sent.stream).andSays
        (Peripheral.says_closeFrame _ sent)
      intro peripheral given
      cases given
      have framed
          : IsFramed slaves id
              (.stream sent handle register window,
                .stream sent slave.address register window.length) :=
        ⟨slave, found, home, .stream⟩
      exact ⟨_, _, records.ends framed closed rfl rfl rfl, .nothing rfl⟩
  | touch here silent =>
      obtain ⟨done, last, records, unfinished⟩ := ordered _ here
      intro peripheral given
      cases given
      exact ⟨done, last, records.silent silent rfl rfl, unfinished.of_active rfl⟩
  | forget => exact absurd rfl kept

/-- A longer table knows the slaves of all frames. -/
theorem Ordered.mono (ordered : bus.Ordered slaves id left)
    (known : ∀ {handle slave}, slaves.get? handle = some slave → more.get? handle = some slave)
    : bus.Ordered more id left := by
  intro peripheral here
  obtain ⟨done, last, records, unfinished⟩ := ordered peripheral here
  refine ⟨done, last, ⟨records.served, ?_, ?_, records.commands, records.log⟩, ?_⟩
  · exact fun entry member => (records.framed entry member).mono known
  · exact fun entry member => (records.begun entry member).mono known
  · cases unfinished with
    | nothing free => exact .nothing free
    | stream held found => exact .stream held (known found)
    | probe held found few => exact .probe held (known found) few

/-- A frame is unfinished exactly while the bus is owned. -/
theorem Unfinished.isSome (unfinished : bus.Unfinished slaves left last)
    : last.isSome = bus.isBusy := by
  have busy := bus.isBusy_eq
  cases unfinished with
  | nothing free => simp [busy, free]
  | stream held | probe held => simp [busy, held]

end Bus

-----------------------------------------------------------------------------------------
-- Events and runs
-----------------------------------------------------------------------------------------

namespace Scene

/-- A bus that was not brought up has served nothing, since no slave lives there. -/
theorem Coherent.unused {scene : Scene} (coherent : scene.Coherent) {id : BusId}
    (unready : (scene.master.bus id).configured = false)
    : (scene.master.bus id).served = [] := by
  apply List.eq_nil_iff_forall_not_mem.mpr
  intro transaction member
  obtain ⟨slave, found, rfl⟩ := coherent.ledger id transaction member
  have ready := (coherent.homes found).1
  simp [unready] at ready

/-- The frames on a bus stay in order as long as its records are not erased. -/
theorem Coherent.ordered {scene next : Scene} {event : Event} {id : BusId}
    (coherent : scene.Coherent) (move : scene.Move event next) (kept : event ≠ .forget id)
    (ordered : (scene.master.bus id).Ordered scene.master.slaves id (scene.trials.get id))
    : (next.master.bus id).Ordered next.master.slaves id (next.trials.get id) := by
  cases move with
  | @turn place _ _ _ _ turn _ =>
      by_cases same : id = place
      · subst same
        simpa using turn.ordered coherent.fits (coherent.buses id) coherent.unused kept ordered
      · simpa [same] using ordered
  | enter _ _ accepted => exact ordered.mono (SlaveTable.get?_of_insert accepted)
  | advance => exact ordered

theorem Coherent.ordered_moves {scene next : Scene} {events : List Event} {id : BusId}
    (coherent : scene.Coherent) (moves : scene.Moves events next)
    (kept : ∀ event ∈ events, event ≠ .forget id)
    (ordered : (scene.master.bus id).Ordered scene.master.slaves id (scene.trials.get id))
    : (next.master.bus id).Ordered next.master.slaves id (next.trials.get id) := by
  induction moves with
  | nil => exact ordered
  | cons move _ ih =>
      exact ih (coherent.move move)
        (fun event member => kept event (List.mem_cons_of_mem _ member))
        (coherent.ordered move (kept _ List.mem_cons_self) ordered)

end Scene

-----------------------------------------------------------------------------------------
-- What an accepted request adds to the ledger
-----------------------------------------------------------------------------------------

/-- The answer says that an operation was carried out. -/
def Result.succeeds : Result → Bool
  | done | byte _ => true
  | _ => false

namespace Master

variable {master : Master} {operation : Operation} {id other : BusId} {slave : Slave}

/-- An operation adds itself to the ledger of its bus if it is answered with success, and nothing
otherwise. Other ledgers stay as they are.
-/
theorem Advances.ledger {progress : Poll Claiming (Except MasterError Reply) × Master}
    (advances : master.Advances operation id progress) (filled : operation.isEmpty = false)
    : (progress.2.bus other).served
      = (master.bus other).served
        ++ if id = other ∧ (Result.ofProgress progress.1).succeeds then
            [operation.transaction master.memory]
          else [] := by
  cases advances with
  | refused | waits => simp [Result.ofProgress, Result.ofMaster, Result.succeeds]
  | empty empty => simp [filled] at empty
  | @served slave reply next home accepted =>
      subst home
      have succeeds : (Result.ofProgress (.ready (.ok reply))).succeeds = true := by
        cases reply <;> rfl
      obtain ⟨peripheral, after, memory, -, -, -, rfl⟩ := eq_of_attempt accepted
      by_cases same : slave.bus = other
      · subst same
        simp [Master.bus, setBus, succeeds]
      · have elsewhere : other ≠ slave.bus := fun equal => same equal.symm
        simp [Master.bus, setBus, same, elsewhere]

/-- How far a probe gets changes no ledger. -/
theorem served_settleStandby (master : Master) (slave : Slave)
    (progress : Poll Retry.Paused Bool × Peripheral × Delay) (other : BusId)
    : ((master.settleStandby slave progress).2.2.bus other).served
      = (master.bus other).served := by
  obtain ⟨outcome, peripheral, delay⟩ := progress
  by_cases same : other = slave.bus
  · subst same
    cases outcome <;> simp [settleStandby, Master.bus, setBus, setPeripheral, Bus.release]
  · cases outcome <;> simp [settleStandby, Master.bus, setBus, setPeripheral, same]

/-- A probe adds itself to the ledger of its bus if it finds the bus idle, by cases on whether the
bus is busy. Other ledgers stay as they are.
-/
theorem ledger_claimStandby {peripheral : Peripheral}
    (here : master.peripheral? slave.bus = some peripheral) (handle : Handle) (delay : Delay)
    : ((master.claimStandby handle slave delay).2.2.bus other).served
      = (master.bus other).served
        ++ if slave.bus = other ∧ (master.bus other).isBusy = false then
            [.probe handle]
          else [] := by
  cases claimed : (master.bus slave.bus).claim (.probe handle) with
  | none =>
      have busy : (master.bus slave.bus).isBusy = true := by
        cases held : (master.bus slave.bus).active.load with
        | none => simp [Bus.claim, HandleCell.trySet_of_load_eq_none held] at claimed
        | some owner => simp [Bus.isBusy, HandleCell.isSome_eq, held]
      have waits : ¬ (slave.bus = other ∧ (master.bus other).isBusy = false) := by
        rintro ⟨rfl, free⟩
        simp [busy] at free
      simp only [claimStandby, claimed, waits, if_false, List.append_nil]
  | some bus =>
      obtain ⟨free, rfl⟩ := Bus.eq_of_claim claimed
      have idle : (master.bus slave.bus).isBusy = false := by
        simp [Bus.isBusy_eq, free]
      simp only [claimStandby, claimed, here, served_settleStandby]
      by_cases same : slave.bus = other
      · subst same
        simp [Master.bus, setBus] at idle ⊢
        simp [idle]
      · have elsewhere : other ≠ slave.bus := fun equal => same equal.symm
        simp [Master.bus, setBus, same, elsewhere]

end Master

namespace Bench

/-- The probe that an action begins, or that still waits for its bus when the action polls it. -/
def probe? (bench : Bench) : Action → Option (Handle × Slave)
  | .standby handle _ _ =>
    (bench.master.slaves.get? handle).map fun slave => (handle, slave)
  | .poll number =>
    match bench.task? number with
    | some (.standby (.claiming handle slave) _) => some (handle, slave)
    | _ => none
  | _ => none

variable {bench : Bench} {id : BusId} {action : Action}

/-- A request of a client adds its own transaction to the ledger of its bus if it is answered with
success, and nothing to any ledger otherwise.
-/
theorem ledger_of_operation? {operation : Operation} {place : BusId}
    (named : bench.operation? action = some (operation, place))
    (filled : operation.isEmpty = false) (other : BusId)
    : ((bench.step action).2.master.bus other).served
      = (bench.master.bus other).served
        ++ if place = other ∧ (bench.step action).1.result.succeeds then
            [operation.transaction bench.master.memory]
          else [] := by
  obtain ⟨progress, advances, result, master⟩ := advances_of_operation? named
  rw [result, master]
  exact advances.ledger filled

/-- A probe adds itself to the ledger of its bus when it finds the bus idle, by cases on whether it
begins or was waiting.
-/
theorem ledger_of_probe? {handle : Handle} {slave : Slave} {peripheral : Peripheral}
    (named : bench.probe? action = some (handle, slave))
    (here : bench.master.peripheral? slave.bus = some peripheral) (other : BusId)
    : ((bench.step action).2.master.bus other).served
      = (bench.master.bus other).served
        ++ if slave.bus = other ∧ (bench.master.bus other).isBusy = false then
            [.probe handle]
          else [] := by
  cases action with
  | standby handle schedule number =>
      obtain ⟨slave, found, same⟩ := Option.map_eq_some_iff.mp named
      cases same
      have resolved : bench.master.resolve handle = .ok slave := by
        simp [Master.resolve, found, here]
      simp only [step, master_settleStandby, Master.startStandby, resolved]
      exact Master.ledger_claimStandby here handle _
  | poll number =>
      simp only [probe?] at named
      split at named
      · rename_i delay polled
        cases named
        simp only [step, polled, resume, master_settleStandby]
        exact Master.ledger_claimStandby here handle delay
      · simp at named
  | _ => simp [probe?] at named

-----------------------------------------------------------------------------------------
-- Every run
-----------------------------------------------------------------------------------------

/-- The bookkeeping is right, and the frames on this bus are in order. -/
def Wired (bench : Bench) (id : BusId) : Prop :=
  ∃ trials,
    bench.Tracks .any trials
    ∧ (bench.master.bus id).Ordered bench.master.slaves id (trials.get id)

/-- An orderly action keeps the frames of a bus in order, unless it erases its records. -/
theorem Wired.step (wired : bench.Wired id) (orderly : action.Orderly)
    (kept : action ≠ .forget id)
    : (bench.step action).2.Wired id := by
  obtain ⟨trials, tracks, ordered⟩ := wired
  obtain ⟨events, left, accounts, -⟩ := tracks.step orderly.keeps
  refine ⟨left, accounts.tracks, tracks.coherent.ordered_moves accounts.moves ?_ ordered⟩
  rintro event member rfl
  exact kept (accounts.causes _ member)

/-- Nothing was said yet on a bench that was just assembled. -/
theorem wired_assemble (capacity : Fin 255) (paces : PerBus (Option Pace))
    (buffers : List (List UInt8)) (sensors : List (Config × Nat)) (id : BusId)
    : (assemble capacity paces buffers sensors).Wired id := by
  refine ⟨_, tracks_assemble capacity paces buffers sensors, ?_⟩
  have fresh
      : (assemble capacity paces buffers sensors).master.bus id
        = .new ((paces.get id).map .new) := by
    simp [assemble, Bench.new, Master.new, Master.bus]
  rw [fresh]
  intro peripheral here
  obtain ⟨pace, -, rfl⟩ := Option.map_eq_some_iff.mp here
  exact ⟨[], none, ⟨rfl, by simp, by simp, rfl, rfl⟩, .nothing rfl⟩

theorem Follows.wired {actions : List Action}
    (follows : Follows (fun _ action => action.Orderly ∧ action ≠ .forget id) bench actions)
    (wired : bench.Wired id)
    : (bench.run actions).2.Wired id := by
  have step (current : Bench) (action : Action) (held : current.Wired id)
      (rule : action.Orderly ∧ action ≠ .forget id)
      : (current.step action).2.Wired id :=
    held.step rule.1 rule.2
  exact follows.preserve step wired

/-- The commands on a bus whose frames are in order are those of its records, which say who the
frames are with. The last frame is unfinished exactly while the bus is owned.
-/
theorem Wired.records (wired : bench.Wired id) {peripheral : Peripheral}
    (here : bench.master.peripheral? id = some peripheral)
    : ∃ done last,
        (bench.master.bus id).Records bench.master.slaves id peripheral done last
        ∧ (∀ entry ∈ done ++ last.toList, Bus.IsFramed bench.master.slaves id entry)
        ∧ last.isSome = (bench.master.bus id).isBusy := by
  obtain ⟨trials, -, ordered⟩ := wired
  obtain ⟨done, last, records, unfinished⟩ := ordered peripheral here
  refine ⟨done, last, records, ?_, unfinished.isSome⟩
  intro entry member
  rcases List.mem_append.mp member with earlier | final
  · exact records.framed entry earlier
  · exact records.begun entry (Option.mem_toList.mp final)

/-- In every run in which transfer-complete flags are raised by the end of transfers only, and in
which the records of a bus are not erased, the commands on this bus are the frames of its
transactions in the order in which they were given the bus. Only the last frame may be unfinished,
and it is exactly while the bus is owned. The log holds as many of the commands as it has room for.
A request adds its own transaction when it is answered with success and nothing otherwise, and a
probe is added when it finds the bus idle.
-/
theorem frames_in_order {capacity : Fin 255} {paces : PerBus (Option Pace)}
    {buffers : List (List UInt8)} {sensors : List (Config × Nat)} {actions : List Action}
    {id : BusId} {peripheral : Peripheral}
    (follows
      : Follows (fun _ action => action.Orderly ∧ action ≠ .forget id)
          (assemble capacity paces buffers sensors) actions)
    (here
      : ((assemble capacity paces buffers sensors).run actions).2.master.peripheral? id
        = some peripheral)
    : let bench := ((assemble capacity paces buffers sensors).run actions).2
      let master := bench.master
      let bus := master.bus id
      (∃ (done : List (Transaction × WireFrame)) (last : Option (Transaction × WireFrame)),
        bus.served = (done ++ last.toList).map Prod.fst
        ∧ (∀ entry ∈ done ++ last.toList, Bus.IsFramed master.slaves id entry)
        ∧ last.isSome = bus.isBusy
        ∧ peripheral.commands
          = (if bus.configured then [.configure] else [])
            ++ done.flatMap (fun entry => entry.2.commands)
            ++ last.toList.flatMap (fun entry => entry.2.begun)
        ∧ peripheral.log = peripheral.commands.take Peripheral.logCapacity)
      ∧ (∀ action operation place, bench.operation? action = some (operation, place)
        → operation.isEmpty = false
        → ((bench.step action).2.master.bus id).served
          = bus.served
            ++ if place = id ∧ (bench.step action).1.result.succeeds then
                [operation.transaction master.memory]
              else [])
      ∧ ∀ action handle slave, bench.probe? action = some (handle, slave)
        → slave.bus = id
        → ((bench.step action).2.master.bus id).served
          = bus.served ++ if bus.isBusy then [] else [.probe handle] := by
  refine ⟨?_, fun action operation place named filled => ledger_of_operation? named filled id, ?_⟩
  · obtain ⟨done, last, records, framed, unfinished⟩ :=
      (follows.wired (wired_assemble capacity paces buffers sensors id)).records here
    exact ⟨done, last, records.served, framed, unfinished, records.commands, records.log⟩
  · rintro action handle slave named rfl
    rw [ledger_of_probe? named here]
    cases (((assemble capacity paces buffers sensors).run actions).2.master.bus
      slave.bus).isBusy <;> simp

/-- A reception of four bytes has completed, so its frame is there as a whole. The probe after it
was refused twice and pauses, so nothing but these refusals is there of its frame.
-/
theorem frames_in_order_after_reception
    : let actions : List Action :=
        [.register ⟨.i2c1, 0x50, .none⟩,
          .tryTransfer ⟨.read, ⟨0⟩, ⟨.bits16, 0x0102⟩, ⟨.buffer 0, 0, 4⟩⟩,
          .deliver .i2c1 [1, 2, 3, 4], .complete .i2c1 .rx,
          .arrange .i2c1 (.refuseNext 3), .standby ⟨0⟩ true (some 7), .poll 7]
      let bench := ((assemble 2 ⟨some .instant, none, none⟩ [[0, 0, 0, 0]] []).run actions).2
      let reception : Transaction :=
        .stream .read ⟨0⟩ ⟨.bits16, 0x0102⟩ ⟨.buffer 0, 0, 4⟩
      ∃ peripheral,
        bench.master.peripheral? .i2c1 = some peripheral
        ∧ ∃ (done : List (Transaction × WireFrame)) (last : Option (Transaction × WireFrame)),
          (bench.master.bus .i2c1).served = (done ++ last.toList).map Prod.fst
          ∧ last.isSome = true
          ∧ peripheral.commands
            = [.configure] ++ done.flatMap (fun entry => entry.2.commands)
              ++ last.toList.flatMap (fun entry => entry.2.begun)
          ∧ done = [(reception, .stream .read 0x50 ⟨.bits16, 0x0102⟩ 4)]
          ∧ last = some (.probe ⟨0⟩, .probe 0x50 2 true) := by
  intro actions bench reception
  have follows
      : Follows (fun _ action => action.Orderly ∧ action ≠ .forget .i2c1)
          (assemble 2 ⟨some .instant, none, none⟩ [[0, 0, 0, 0]] []) actions :=
    ⟨⟨True.intro, by simp⟩, ⟨True.intro, by simp⟩, ⟨True.intro, by simp⟩,
      ⟨True.intro, by simp⟩, ⟨True.intro, by simp⟩, ⟨True.intro, by simp⟩,
      ⟨True.intro, by simp⟩, True.intro⟩
  obtain ⟨peripheral, here⟩ : ∃ peripheral, bench.master.peripheral? .i2c1 = some peripheral :=
    ⟨_, rfl⟩
  obtain ⟨⟨done, last, served, framed, unfinished, commands, -⟩, -⟩ := frames_in_order follows here
  have busy : last.isSome = true := unfinished.trans (by decide)
  obtain ⟨⟨probe, refused⟩, rfl⟩ := Option.isSome_iff_exists.mp busy
  -- the ledger says whose frames they are, and the table says which slave that is
  have ledger : (bench.master.bus .i2c1).served = [reception] ++ [.probe ⟨0⟩] := by
    decide +kernel
  have whose := ledger.symm.trans served
  rw [List.map_append] at whose
  obtain ⟨first, second⟩ := List.append_inj' whose rfl
  obtain ⟨⟨earlier, whole⟩, rfl, rfl⟩ := List.map_eq_singleton_iff.mp first.symm
  obtain rfl : probe = .probe ⟨0⟩ := by simpa using second.symm
  have known : bench.master.slaves.get? ⟨0⟩ = some ⟨.i2c1, 0x50, .none⟩ := rfl
  obtain ⟨slave, found, -, stream⟩ := framed _ (List.mem_append_left _ (List.mem_singleton_self _))
  obtain rfl := Option.some.inj (known.symm.trans found)
  cases stream
  -- how often the probe was refused is told by the number of commands
  have up : (bench.master.bus .i2c1).configured = true := by decide +kernel
  rw [if_pos up] at commands
  have said : (bench.master.peripheral? .i2c1).map (·.commands.length) = some 20 := by
    decide +kernel
  obtain ⟨slave, found, -, shape⟩ := framed (.probe ⟨0⟩, refused) (by simp)
  obtain rfl := Option.some.inj (known.symm.trans found)
  have begun : refused.begun.length = 6 := by
    rw [here, Option.map_some, Option.some.injEq, commands] at said
    simpa [WireFrame.commands, opening, selection, turnaround, closing] using said
  cases shape with
  | exhausted => simp [WireFrame.begun, Standby.trials] at begun
  | @acknowledged _ count few =>
      obtain rfl : count = 2 := by
        rw [WireFrame.begun, length_refusals] at begun
        omega
      exact ⟨peripheral, here, _, _, served, rfl, commands, rfl, rfl⟩

end Bench

end TwoWire
