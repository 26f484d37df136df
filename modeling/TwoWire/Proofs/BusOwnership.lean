import TwoWire.Proofs.Runs

/-! A bus is owned exactly while something shows it: a stream that is armed, a transfer-complete
flag, or a probe that pauses between two trials. In every run there is at most one such sign.
-/

namespace TwoWire

open Scene
open Magnetometer

/-- Something that shows that a transaction goes on. -/
inductive Sign where
  | armed (stream : Stream)
  | landed (stream : Stream)
  /-- The task with a number is a probe that pauses between two trials. -/
  | probing (task : Nat)
deriving DecidableEq, Repr

/-- Only the end of a transfer raises a transfer-complete flag, and only the master accesses a
peripheral.
-/
def Action.Orderly : Action → Prop
  | raise .. | manual .. => False
  | _ => True

theorem Action.Orderly.keeps {action : Action} (orderly : action.Orderly)
    : action.Keeps .any := by
  cases action <;> first | exact True.intro | exact orderly

namespace Bench

/-- A sign can be seen on a bus. -/
def Shows (bench : Bench) (id : BusId) : Sign → Prop
  | .armed stream =>
    ∃ peripheral window,
      bench.master.peripheral? id = some peripheral
      ∧ peripheral.armed = some (stream, window)
  | .landed stream =>
    ∃ peripheral,
      bench.master.peripheral? id = some peripheral ∧ peripheral.completed stream = true
  | .probing number =>
    ∃ slave paused delay,
      bench.task? number = some (.standby (.pausing slave paused) delay) ∧ slave.bus = id

variable {rules : ClientRules} {trials : PerBus (Option Nat)} {bench : Bench} {id : BusId}
  {peripheral : Peripheral}

theorem shows_armed_iff (here : bench.master.peripheral? id = some peripheral)
    {stream : Stream}
    : bench.Shows id (.armed stream) ↔ ∃ window, peripheral.armed = some (stream, window) := by
  constructor
  · intro held
    obtain ⟨_, window, there, armed⟩ := held
    obtain rfl := Option.some.inj (here.symm.trans there)
    exact ⟨window, armed⟩
  · intro held
    obtain ⟨window, armed⟩ := held
    exact ⟨peripheral, window, here, armed⟩

theorem shows_landed_iff (here : bench.master.peripheral? id = some peripheral)
    {stream : Stream}
    : bench.Shows id (.landed stream) ↔ peripheral.streams.completed stream = true := by
  rw [peripheral.completed_streams]
  constructor
  · intro held
    obtain ⟨_, there, flag⟩ := held
    obtain rfl := Option.some.inj (here.symm.trans there)
    exact flag
  · exact fun flag => ⟨peripheral, here, flag⟩

/-- On a bus whose streams are quiet neither a transfer nor a flag can be seen. -/
theorem unseen_of_quiet
    (quiet
      : ∀ peripheral, bench.master.peripheral? id = some peripheral
        → peripheral.streams = .quiet)
    : (∀ stream, ¬ bench.Shows id (.armed stream))
      ∧ ∀ stream, ¬ bench.Shows id (.landed stream) := by
  constructor
  · intro stream held
    obtain ⟨peripheral, window, here, armed⟩ := held
    have none := congrArg StreamState.armed (quiet peripheral here)
    exact absurd (none.symm.trans armed) (by simp [StreamState.quiet])
  · intro stream held
    obtain ⟨peripheral, here, flag⟩ := held
    rw [← peripheral.completed_streams, quiet peripheral here] at flag
    cases stream <;> simp [StreamState.quiet, StreamState.completed] at flag

/-- A task that holds a bus is a probe that pauses there. -/
theorem probing_of_holds {number : Nat} {task : Task} (polled : bench.task? number = some task)
    (holds : task.holds? = some id)
    : bench.Shows id (.probing number) := by
  match task with
  | .operation _ | .bringUp _ _ _ | .standby (.claiming _ _) _ => simp [Task.holds?] at holds
  | .standby (.pausing slave paused) delay =>
      exact ⟨slave, paused, delay, polled, Option.some.inj holds⟩

theorem holds_of_probing {number : Nat} (shows : bench.Shows id (.probing number))
    : ∃ task, bench.task? number = some task ∧ task.holds? = some id := by
  obtain ⟨slave, paused, delay, polled, rfl⟩ := shows
  exact ⟨_, polled, rfl⟩

/-- A pausing probe has trials left on its bus. -/
theorem Tracks.budget_of_probing (tracks : bench.Tracks rules trials) {number : Nat}
    (shows : bench.Shows id (.probing number))
    : ∃ left, trials.get id = some left := by
  obtain ⟨slave, paused, delay, polled, rfl⟩ := shows
  exact ⟨paused.trials, (tracks.tasks _ (mem_tasks_of_task? polled)).1⟩

/-- No two probes pause on the same bus. -/
theorem Tracks.probing_unique (tracks : bench.Tracks rules trials) {first second : Nat}
    (one : bench.Shows id (.probing first)) (other : bench.Shows id (.probing second))
    : first = second := by
  obtain ⟨slave, paused, delay, polled, rfl⟩ := one
  obtain ⟨last, rest, later, found, home⟩ := other
  apply Classical.byContradiction
  intro distinct
  have alone := tracks.alone_of_task? polled rfl
  refine alone (second, .standby (.pausing last rest) later) ?_ (congrArg some home)
  refine List.mem_filter.mpr ⟨mem_tasks_of_task? found, ?_⟩
  simpa using fun same => distinct same.symm

/-- What can be seen on a bus is told by its phase: one sign while it is owned, and none while it
is idle.
-/
theorem Tracks.shown (tracks : bench.Tracks rules trials) (attends : bench.Attends trials)
    (id : BusId)
    : ∃ shown : Option Sign,
        ((bench.master.bus id).isBusy = true ↔ ∃ sign, shown = some sign)
        ∧ ∀ sign, bench.Shows id sign ↔ shown = some sign := by
  have phase := tracks.coherent.buses id
  have unprobed (none : trials.get id = none) (number : Nat)
      : ¬ bench.Shows id (.probing number) := by
    intro shows
    obtain ⟨left, budget⟩ := tracks.budget_of_probing shows
    simp [none] at budget
  have busy := (bench.master.bus id).isBusy_eq
  generalize budget : trials.get id = left at phase
  cases phase with
  | idle free quiet =>
      have unseen := unseen_of_quiet quiet
      refine ⟨none, by simp [busy, free], ?_⟩
      intro sign
      rcases sign with stream | stream | number
      · simpa using unseen.1 stream
      · simpa using unseen.2 stream
      · simpa using unprobed budget number
  | @running kind _ _ window _ peripheral held _ _ _ here streams =>
      have armed : peripheral.armed = some (kind.stream, window) :=
        congrArg StreamState.armed streams
      refine ⟨some (.armed kind.stream), by simp [busy, held], ?_⟩
      intro sign
      rcases sign with stream | stream | number
      · simp [shows_armed_iff here, armed]
      · simp [shows_landed_iff here, streams, StreamState.completed_running]
      · simpa using unprobed budget number
  | @landed kind _ _ _ _ peripheral held _ _ _ here streams =>
      have armed : peripheral.armed = none := congrArg StreamState.armed streams
      refine ⟨some (.landed kind.stream), by simp [busy, held], ?_⟩
      intro sign
      rcases sign with stream | stream | number
      · simp [shows_armed_iff here, armed]
      · simp [shows_landed_iff here, streams, StreamState.completed_finished]
      · simpa using unprobed budget number
  | probing held _ _ _ here quiet =>
      have unseen := unseen_of_quiet (fun peripheral there =>
        Option.some.inj (here.symm.trans there) ▸ quiet)
      obtain ⟨⟨number, task⟩, member, holds⟩ := attends id _ budget
      have probing := probing_of_holds (tracks.task?_of_mem member) holds
      refine ⟨some (.probing number), by simp [busy, held], ?_⟩
      intro sign
      rcases sign with stream | stream | other
      · simpa using unseen.1 stream
      · simpa using unseen.2 stream
      · rw [Option.some.injEq, Sign.probing.injEq]
        exact ⟨tracks.probing_unique probing, fun same => same ▸ probing⟩

-----------------------------------------------------------------------------------------
-- Every run
-----------------------------------------------------------------------------------------

/-- The bookkeeping stays right in a run that drops no probe which has claimed its bus. -/
theorem Follows.tracked {actions : List Action}
    (follows
      : Follows (fun bench action => action.Orderly ∧ ¬ bench.Abandons action) bench actions)
    (start : ∃ trials, bench.Tracks .any trials ∧ bench.Attends trials)
    : ∃ trials,
        (bench.run actions).2.Tracks .any trials ∧ (bench.run actions).2.Attends trials := by
  have step (bench : Bench) (action : Action)
      (tracked : ∃ trials, bench.Tracks .any trials ∧ bench.Attends trials)
      (rule : action.Orderly ∧ ¬ bench.Abandons action)
      : ∃ trials,
          (bench.step action).2.Tracks .any trials ∧ (bench.step action).2.Attends trials := by
    obtain ⟨trials, tracks, attends⟩ := tracked
    obtain ⟨events, left, accounts, attended⟩ := tracks.step rule.1.keeps
    exact ⟨left, accounts.tracks, attended attends rule.2⟩
  exact follows.preserve step start

/-- In every run that drops no probe which has claimed its bus, and in which transfer-complete
flags are raised by the end of transfers only, at most one sign can be seen on a bus, and one can
be seen exactly when the bus is owned. The owner is a registered slave of this bus, and the last
transaction that was given the bus is with it.
-/
theorem owned_iff_shown {capacity : Fin 255} {paces : PerBus (Option Pace)}
    {buffers : List (List UInt8)} {sensors : List (Config × Nat)} {actions : List Action}
    (follows
      : Follows (fun bench action => action.Orderly ∧ ¬ bench.Abandons action)
          (assemble capacity paces buffers sensors) actions)
    (id : BusId)
    : let bench := ((assemble capacity paces buffers sensors).run actions).2
      let bus := bench.master.bus id
      (∀ first second, bench.Shows id first → bench.Shows id second → first = second)
      ∧ (bus.isBusy = true ↔ ∃ sign, bench.Shows id sign)
      ∧ (bus.isBusy = true ↔ ∃ handle, bus.owner = some handle)
      ∧ ∀ handle, bus.owner = some handle
        → ∃ slave transaction,
            bench.master.slaves.get? handle = some slave
            ∧ slave.bus = id
            ∧ bus.served.getLast? = some transaction
            ∧ transaction.handle = handle := by
  obtain ⟨trials, tracks, attends⟩ := follows.tracked
    ⟨_, tracks_assemble capacity paces buffers sensors, attends_assemble⟩
  obtain ⟨shown, busy, seen⟩ := tracks.shown attends id
  refine ⟨?_, ?_, ?_, ?_⟩
  · intro first second one other
    exact Option.some.inj (((seen first).mp one).symm.trans ((seen second).mp other))
  · exact busy.trans (exists_congr fun sign => (seen sign).symm)
  · rw [Bus.isBusy, HandleCell.isSome_eq, Option.isSome_iff_exists]
    rfl
  · intro handle held
    exact (tracks.coherent.buses id).owner_known held

/-- A probe pauses on the first bus, whose slave refuses its address, while a transfer that waits
for the bus is dropped.
-/
theorem owned_by_pausing_probe
    : let actions : List Action :=
        [.register ⟨.i2c1, 0x50, .none⟩, .arrange .i2c1 (.refuseAll true),
          .standby ⟨0⟩ true (some 7),
          .start (.transfer ⟨.read, ⟨0⟩, ⟨.bits16, 0x0102⟩, ⟨.buffer 0, 0, 4⟩⟩) none]
      let bench := ((assemble 2 ⟨some .instant, none, none⟩ [[0, 0, 0, 0]] []).run actions).2
      (bench.master.bus .i2c1).isBusy = true ∧ ∃ sign, bench.Shows .i2c1 sign := by
  intro actions bench
  have follows
      : Follows (fun bench action => action.Orderly ∧ ¬ bench.Abandons action)
          (assemble 2 ⟨some .instant, none, none⟩ [[0, 0, 0, 0]] []) actions :=
    ⟨⟨True.intro, by decide⟩, ⟨True.intro, by decide⟩, ⟨True.intro, by decide⟩,
      ⟨True.intro, by decide⟩, True.intro⟩
  have busy : (bench.master.bus .i2c1).isBusy = true := by decide
  exact ⟨busy, (owned_iff_shown follows .i2c1).2.1.mp busy⟩

end Bench

end TwoWire
