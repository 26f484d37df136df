import TwoWire.Proofs.BusOwnership
import TwoWire.Proofs.Locality

/-! What a completion does to a bus whose transaction it does not belong to.

A completion reads the flag of its stream and then ends the transaction that owns the bus, whichever
that is. In runs without stray flags the two always belong together. A flag that is raised while the
other stream or a probe owns the bus makes the bus idle too early: the transfer is still armed, and
the probe still goes on.
-/

namespace TwoWire

open Scene
open Magnetometer

/-- The stream that a transaction takes, if it takes one. -/
def Transaction.stream? : Transaction → Option Stream
  | stream kind .. => some kind.stream
  | _ => none

/-- The transaction that owns the bus, which is the last one that was given it. -/
def Bus.holder? (bus : Bus) : Option Transaction :=
  if bus.isBusy then bus.served.getLast? else none

namespace Peripheral

/-- Commands that leave the streams alone leave alone what is armed. -/
theorem Leaves.armed_eq {before after : Peripheral} {said : List Command}
    (spoken : before.Says said after)
    : after.armed = before.armed :=
  congrArg StreamState.armed spoken.streams

/-- Closing the frame of a stream leaves alone what is armed. -/
theorem armed_closed (peripheral : Peripheral) (stream : Stream)
    : ((peripheral.takeCompleted stream).2.closeFrame stream).armed = peripheral.armed := by
  cases stream with
  | tx => exact (says_closeFrame (peripheral.takeCompleted .tx).2 .write).armed_eq
  | rx => exact (says_closeFrame (peripheral.takeCompleted .rx).2 .read).armed_eq

end Peripheral

namespace Bench

/-- The transfer that is armed on a bus, if there is one. -/
def armed? (bench : Bench) (id : BusId) : Option (Stream × Window) :=
  (bench.master.peripheral? id).bind Peripheral.armed

/-- The completion of a stream tells nobody, and leaves the bus to its owner and to the transfer
that is armed there.
-/
structure Undisturbed (bench : Bench) (id : BusId) (stream : Stream) : Prop where
  untold : (bench.step (.complete id stream)).1.notice = none
  owner
    : ((bench.step (.complete id stream)).2.master.bus id).owner = (bench.master.bus id).owner
  armed : (bench.step (.complete id stream)).2.armed? id = bench.armed? id

variable {bench : Bench} {id : BusId} {stream : Stream} {handle : Handle}

-----------------------------------------------------------------------------------------
-- One completion
-----------------------------------------------------------------------------------------

/-- Without its flag a completion disturbs nothing. -/
theorem undisturbed_of_unseen (unseen : ¬ bench.Shows id (.landed stream))
    : bench.Undisturbed id stream := by
  cases here : bench.master.peripheral? id with
  | none =>
      have idle : bench.master.complete id stream = (none, bench.master) := by
        simp [Master.complete, here]
      constructor <;> simp [step, idle]
  | some peripheral =>
      have unset : peripheral.completed stream = false := by
        simpa using fun flag => unseen ⟨peripheral, here, flag⟩
      have silent := Master.complete_of_unset here unset
      have kept := (Peripheral.says_takeCompleted unset).armed_eq
      constructor
      · simp [step, silent]
      · simp [step, silent, Master.setPeripheral, Master.setBus, Master.bus, Bus.owner]
      · rw [armed?, armed?, here]
        simpa [step, silent, Master.peripheral?, Master.setPeripheral, Master.setBus,
          Master.bus] using kept

/-- On an idle bus a completion disturbs nothing, even with its flag. -/
theorem undisturbed_of_idle (free : (bench.master.bus id).owner = none)
    : bench.Undisturbed id stream := by
  by_cases shows : bench.Shows id (.landed stream)
  · obtain ⟨peripheral, here, flag⟩ := shows
    have closed := Master.complete_of_unowned here flag free
    constructor
    · simp [step, closed]
    · rw [free]
      simp [step, closed, Master.freed, Master.setBus, Master.bus, Bus.owner]
    · rw [armed?, armed?, here]
      simpa [step, closed, Master.freed, Master.peripheral?, Master.setBus, Master.bus]
        using peripheral.armed_closed stream
  · exact undisturbed_of_unseen shows

/-- With its flag a completion tells the owner of the bus that the bus is idle, whatever transaction
the owner had there.
-/
theorem Inhabited.told (inhabited : bench.Inhabited) (shows : bench.Shows id (.landed stream))
    (held : (bench.master.bus id).owner = some handle)
    : ∃ notice,
        (bench.step (.complete id stream)).1.notice = some notice
        ∧ notice.handle = handle
        ∧ notice.bus = id
        ∧ notice.busy = false := by
  obtain ⟨peripheral, here, flag⟩ := shows
  obtain ⟨slave, found, home⟩ := inhabited.owners id handle held
  have ended := Master.complete_of_set here flag held found
  exact ⟨_, congrArg Prod.fst ended, bench.master.notify_freed peripheral stream handle home⟩

/-- A completion disturbs a bus exactly if it finds its flag there and the bus owned. -/
theorem Inhabited.undisturbed_iff (inhabited : bench.Inhabited)
    : bench.Undisturbed id stream
      ↔ bench.Shows id (.landed stream) → (bench.master.bus id).owner = none := by
  constructor
  · intro undisturbed shows
    cases held : (bench.master.bus id).owner with
    | none => rfl
    | some handle =>
        obtain ⟨notice, told, -⟩ := inhabited.told shows held
        simp [undisturbed.untold] at told
  · intro idle
    by_cases shows : bench.Shows id (.landed stream)
    · exact undisturbed_of_idle (idle shows)
    · exact undisturbed_of_unseen shows

/-- Where the bookkeeping is right, a flag belongs to the transaction that owns the bus. -/
theorem Tracks.holder_of_landed {rules : ClientRules} {trials : PerBus (Option Nat)}
    (tracks : bench.Tracks rules trials) (shows : bench.Shows id (.landed stream))
    : ∃ transaction,
        (bench.master.bus id).holder? = some transaction
        ∧ transaction.stream? = some stream := by
  obtain ⟨peripheral, here, flag⟩ := shows
  obtain ⟨-, kind, handle, register, window, -, rfl, held, -, -, last, -⟩ :=
    (tracks.coherent.buses id).landed_of_completed here flag
  have busy : (bench.master.bus id).isBusy = true := by
    simp [Bus.isBusy_eq, held]
  exact ⟨.stream kind handle register window, by simp [Bus.holder?, busy, last], rfl⟩

-----------------------------------------------------------------------------------------
-- Every run
-----------------------------------------------------------------------------------------

/-- In every run, in which flags may be raised at any time, a completion leaves a bus undisturbed
exactly if its flag is not set or the bus is idle; else the owner is told, whatever its transaction
is. As long as flags are raised by the end of transfers only, a completion disturbs no bus but one
that is held by a transaction of its stream.
-/
theorem completion_disturbs_owner (capacity : Fin 255) (paces : PerBus (Option Pace))
    (buffers : List (List UInt8)) (sensors : List (Config × Nat)) (actions : List Action)
    : let bench := ((assemble capacity paces buffers sensors).run actions).2
      (∀ id stream,
        bench.Undisturbed id stream
        ↔ bench.Shows id (.landed stream) → (bench.master.bus id).owner = none)
      ∧ (∀ id stream handle, bench.Shows id (.landed stream)
        → (bench.master.bus id).owner = some handle
        → ∃ notice,
            (bench.step (.complete id stream)).1.notice = some notice
            ∧ notice.handle = handle
            ∧ notice.bus = id
            ∧ notice.busy = false)
      ∧ (Follows (fun _ action => action.Orderly) (assemble capacity paces buffers sensors)
          actions
        → ∀ id stream,
            (∀ transaction, (bench.master.bus id).holder? = some transaction
              → transaction.stream? ≠ some stream)
            → bench.Undisturbed id stream) := by
  have inhabited := (inhabited_assemble capacity paces buffers sensors).run actions
  refine ⟨fun id stream => inhabited.undisturbed_iff,
    fun id stream handle => inhabited.told, ?_⟩
  intro follows id stream foreign
  obtain ⟨trials, tracks, -, -⟩ := follows.tracks (fun _ _ orderly => orderly.keeps)
    (tracks_assemble capacity paces buffers sensors)
  refine undisturbed_of_unseen (fun shows => ?_)
  obtain ⟨transaction, holds, takes⟩ := tracks.holder_of_landed shows
  exact foreign transaction holds takes

/-- While a write is armed on the first bus the flag of receptions is raised. The completion of
receptions then ends the write, and the bus is idle with the write still armed.
-/
theorem write_ended_by_reception
    : let request : Request := ⟨.write, ⟨0⟩, ⟨.bits16, 0⟩, ⟨.buffer 0, 0, 4⟩⟩
      let bench :=
        ((assemble 2 ⟨some .instant, none, none⟩ [[1, 2, 3, 4]] []).run
          [.register ⟨.i2c1, 0x50, .tell "page" none⟩, .tryTransfer request,
            .raise .i2c1 .rx]).2
      let (answer, next) := bench.step (.complete .i2c1 .rx)
      (bench.master.bus .i2c1).holder?
        = some (.stream .write request.handle request.register request.window)
      ∧ answer.notice.map Notice.tag = some (some "page")
      ∧ (next.master.bus .i2c1).owner = none
      ∧ next.armed? .i2c1 = some (.tx, request.window)
      ∧ ¬ bench.Undisturbed .i2c1 .rx := by
  intro request bench
  have told
      : (bench.step (.complete .i2c1 .rx)).1.notice.map Notice.tag = some (some "page") := by
    decide
  refine ⟨by decide, told, by decide, by decide, fun undisturbed => ?_⟩
  simp [undisturbed.untold] at told

end Bench

end TwoWire
