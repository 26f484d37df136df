import Mathlib.Data.Finset.Dedup
import Mathlib.Data.Fintype.EquivFin
import TwoWire.Proofs.BusOwnership
import TwoWire.Proofs.Waiting

/-! What becomes of a bus when a task that waits is dropped.

A task that waits holds no bus, unless it is a probe that pauses between two trials. Nobody gives
back the bus of such a probe but the probe itself, so when it is dropped the bus stays busy for
good, with nothing in flight.
-/

namespace TwoWire

open Scene
open Magnetometer

namespace Bench

/-- The bus is busy although nothing shows that a transaction goes on there. -/
structure Wedged (bench : Bench) (id : BusId) : Prop where
  busy : (bench.master.bus id).isBusy = true
  unseen : ∀ sign, ¬ bench.Shows id sign

variable {rules : ClientRules} {trials : PerBus (Option Nat)} {bench : Bench} {id : BusId}
  {number : Nat} {action : Action}

-----------------------------------------------------------------------------------------
-- Buses without a keeper
-----------------------------------------------------------------------------------------

/-- A bus is wedged exactly if a probe has trials left there and no task is that probe. The proof
goes through the phases of the bus.
-/
theorem Tracks.wedged_iff (tracks : bench.Tracks rules trials)
    : bench.Wedged id
      ↔ (∃ left, trials.get id = some left)
        ∧ ∀ entry ∈ bench.tasks, entry.2.holds? ≠ some id := by
  have phase := tracks.coherent.buses id
  have busy := (bench.master.bus id).isBusy_eq
  generalize budget : trials.get id = left at phase
  constructor
  · intro wedged
    have held := wedged.busy
    refine ⟨?_, fun entry member holds =>
      wedged.unseen _ (probing_of_holds (tracks.task?_of_mem member) holds)⟩
    cases phase with
    | idle free => simp [busy, free] at held
    | @running kind _ _ window _ peripheral _ _ _ _ here streams =>
        exact absurd ⟨peripheral, window, here, congrArg StreamState.armed streams⟩
          (wedged.unseen (.armed kind.stream))
    | @landed kind _ _ _ _ peripheral _ _ _ _ here streams =>
        refine absurd ?_ (wedged.unseen (.landed kind.stream))
        rw [shows_landed_iff here, streams]
        simp [StreamState.completed_finished]
    | probing => exact ⟨_, rfl⟩
  · rintro ⟨⟨left, rfl⟩, alone⟩
    cases phase with
    | probing held _ _ _ here quiet =>
        have unseen := unseen_of_quiet (fun peripheral there =>
          Option.some.inj (here.symm.trans there) ▸ quiet)
        refine ⟨by simp [busy, held], ?_⟩
        rintro (stream | stream | number)
        · exact unseen.1 stream
        · exact unseen.2 stream
        · intro shows
          obtain ⟨task, polled, holds⟩ := holds_of_probing shows
          exact alone _ (mem_tasks_of_task? polled) holds

/-- Dropping a task wedges no bus but the one on which it is a probe that pauses. -/
theorem Tracks.wedged_drop_iff (tracks : bench.Tracks rules trials)
    : (bench.step (.drop number)).2.Wedged id
      ↔ bench.Wedged id ∨ bench.Shows id (.probing number) := by
  have dropped : (bench.discard number).Tracks rules trials := tracks.discard number
  rw [show (bench.step (.drop number)).2 = bench.discard number from rfl, dropped.wedged_iff,
    tracks.wedged_iff]
  constructor
  · rintro ⟨budget, alone⟩
    refine or_iff_not_imp_right.mpr (fun unseen => ⟨budget, fun entry member holds => ?_⟩)
    by_cases same : entry.1 = number
    · subst same
      exact unseen (probing_of_holds (tracks.task?_of_mem member) holds)
    · exact alone entry (List.mem_filter.mpr ⟨member, by simpa using same⟩) holds
  · rintro (⟨budget, alone⟩ | shows)
    · exact ⟨budget, fun entry member => alone entry (List.mem_filter.mp member).1⟩
    · obtain ⟨task, polled, holds⟩ := holds_of_probing shows
      exact ⟨tracks.budget_of_probing shows, tracks.alone_of_task? polled holds⟩

-----------------------------------------------------------------------------------------
-- Buses that stay wedged
-----------------------------------------------------------------------------------------

/-- The bookkeeping of a wedged bus is as right as if its probe were still kept under a number that
nobody uses.
-/
theorem Tracks.haunted (tracks : bench.Tracks rules trials) (wedged : bench.Wedged id)
    (free : ∀ entry ∈ bench.tasks, some number ≠ some entry.1)
    : ∃ probe : Task,
        probe.holds? = some id ∧ (bench.keep probe (some number)).Tracks rules trials := by
  obtain ⟨⟨left, budget⟩, alone⟩ := tracks.wedged_iff.mp wedged
  have phase := tracks.coherent.buses id
  rw [budget] at phase
  cases phase with
  | @probing handle slave _ _ held found home =>
      subst home
      refine ⟨.standby (.pausing slave ⟨left, []⟩) (.new true), rfl, tracks.keep free ?_ ?_⟩
      · exact ⟨budget, handle, found, held⟩
      · rintro bus ⟨⟩
        exact alone

/-- Nothing that is done on a bench gives back a bus that is wedged: it would be the same if the
probe were still there, and that probe would still hold its bus.
-/
theorem Tracks.wedged_step (tracks : bench.Tracks .any trials) (wedged : bench.Wedged id)
    (orderly : action.Orderly)
    : (bench.step action).2.Wedged id := by
  obtain ⟨number, unused⟩ := Infinite.exists_notMem_finset
    (bench.tasks.map Prod.fst ++ action.names?.toList).toFinset
  simp only [List.mem_toFinset, List.mem_append, List.mem_map, Option.mem_toList, not_or,
    not_exists, not_and] at unused
  obtain ⟨free, apart⟩ := unused
  obtain ⟨probe, holds, kept⟩ :=
    tracks.haunted wedged (fun entry member same => free entry member (Option.some.inj same).symm)
  have vacant : bench.task? number = none := by
    refine List.lookup_eq_none_iff.mpr (fun entry member => ?_)
    simpa using fun same => free entry member same.symm
  have cleared : (bench.keep probe (some number)).discard number = bench := by
    have beyond := discard_of_free vacant
    simpa [Bench.keep, Bench.discard] using beyond
  obtain ⟨-, drops, keeps⟩ : (bench.keep probe (some number)).Beside number
      ((bench.keep probe (some number)).step action)
      (((bench.keep probe (some number)).discard number).step action) :=
    beside_step apart
  rw [cleared] at drops
  obtain ⟨events, left, accounts, -⟩ := kept.step orderly.keeps
  have polled := keeps.trans (task?_keep_self bench probe number)
  rw [drops]
  exact accounts.tracks.wedged_drop_iff.mpr (.inr (probing_of_holds polled holds))

/-- A bus that is wedged stays so in every run that follows, by induction over its actions. -/
theorem Tracks.wedged_run {actions : List Action} (tracks : bench.Tracks .any trials)
    (wedged : bench.Wedged id)
    (follows : Follows (fun _ action => action.Orderly) bench actions)
    : (bench.run actions).2.Wedged id := by
  induction actions generalizing bench trials with
  | nil => exact wedged
  | cons action rest ih =>
      obtain ⟨events, left, accounts, -⟩ := tracks.step follows.1.keeps
      exact ih accounts.tracks (tracks.wedged_step wedged follows.1) follows.2

-----------------------------------------------------------------------------------------
-- Every run
-----------------------------------------------------------------------------------------

/-- In every run in which transfer-complete flags are raised by the end of transfers only, dropping
a task wedges exactly the bus on which it is a probe that pauses between two trials. Such a bus
stays wedged whatever is done then. A run that drops no probe which has claimed its bus wedges
none.
-/
theorem drop_wedges_iff_probing {capacity : Fin 255} {paces : PerBus (Option Pace)}
    {buffers : List (List UInt8)} {sensors : List (Config × Nat)} {actions : List Action}
    (follows
      : Follows (fun _ action => action.Orderly) (assemble capacity paces buffers sensors)
          actions)
    : let bench := ((assemble capacity paces buffers sensors).run actions).2
      (∀ number id,
        (bench.step (.drop number)).2.Wedged id
        ↔ bench.Wedged id ∨ bench.Shows id (.probing number))
      ∧ (∀ id later, bench.Wedged id
        → Follows (fun _ action => action.Orderly) bench later
        → (bench.run later).2.Wedged id)
      ∧ (Follows (fun bench action => action.Orderly ∧ ¬ bench.Abandons action)
          (assemble capacity paces buffers sensors) actions
        → ∀ id, ¬ bench.Wedged id) := by
  obtain ⟨trials, tracks, -, -⟩ := follows.tracks (fun _ _ orderly => orderly.keeps)
    (tracks_assemble capacity paces buffers sensors)
  refine ⟨fun number id => tracks.wedged_drop_iff, fun id later => tracks.wedged_run, ?_⟩
  intro careful id wedged
  obtain ⟨kept, tracked, attends⟩ := careful.tracked
    ⟨_, tracks_assemble capacity paces buffers sensors, attends_assemble⟩
  obtain ⟨shown, busy, seen⟩ := tracked.shown attends id
  obtain ⟨sign, same⟩ := busy.mp wedged.busy
  exact wedged.unseen sign ((seen sign).mpr same)

/-- Once a probe that pauses on the first bus has been dropped, not even a slave that acknowledges
again frees that bus.
-/
theorem wedged_for_good
    : let actions : List Action :=
        [.register ⟨.i2c1, 0x50, .none⟩, .arrange .i2c1 (.refuseAll true),
          .standby ⟨0⟩ true (some 7)]
      let later : List Action := [.arrange .i2c1 (.refuseAll false), .standby ⟨0⟩ true none]
      let bench := assemble 2 ⟨some .instant, none, none⟩ [] []
      ((bench.run (actions ++ .drop 7 :: later)).2).Wedged .i2c1 := by
  intro actions later bench
  have follows : Follows (fun _ action => action.Orderly) bench actions :=
    ⟨True.intro, True.intro, True.intro, True.intro⟩
  have dropped : Follows (fun _ action => action.Orderly) bench (actions ++ [.drop 7]) :=
    ⟨True.intro, True.intro, True.intro, True.intro, True.intro⟩
  have probing : (bench.run actions).2.Shows .i2c1 (.probing 7) :=
    ⟨⟨.i2c1, 0x50, .none⟩, ⟨9, []⟩, _, rfl, rfl⟩
  have wedged : (bench.run (actions ++ [.drop 7])).2.Wedged .i2c1 :=
    ((drop_wedges_iff_probing follows).1 7 .i2c1).mpr (.inr probing)
  exact (drop_wedges_iff_probing dropped).2.1 .i2c1 later wedged
    ⟨True.intro, True.intro, True.intro⟩

/-- A probe that pauses on the first bus, whose slave refuses its address, is dropped. -/
theorem wedged_by_dropped_probe
    : let bench :=
        ((assemble 2 ⟨some .instant, none, none⟩ [] []).run
          [.register ⟨.i2c1, 0x50, .none⟩, .arrange .i2c1 (.refuseAll true),
            .standby ⟨0⟩ true (some 7)]).2
      let left := (bench.step (.drop 7)).2
      bench.Shows .i2c1 (.probing 7)
      ∧ (left.master.bus .i2c1).isBusy = true
      ∧ ∀ sign, ¬ left.Shows .i2c1 sign := by
  intro bench left
  have probing : bench.Shows .i2c1 (.probing 7) :=
    ⟨⟨.i2c1, 0x50, .none⟩, ⟨9, []⟩, _, rfl, rfl⟩
  have quiet (peripheral : Peripheral) (here : left.master.peripheral? .i2c1 = some peripheral)
      : peripheral.streams = .quiet := by
    have streams : (left.master.peripheral? .i2c1).map Peripheral.streams = some .quiet := by
      decide
    rw [here] at streams
    exact Option.some.inj streams
  have unseen := unseen_of_quiet quiet
  refine ⟨probing, by decide, ?_⟩
  rintro (stream | stream | number)
  · exact unseen.1 stream
  · exact unseen.2 stream
  · intro shows
    obtain ⟨task, polled, -⟩ := holds_of_probing shows
    have gone : left.tasks = [] := rfl
    simp [task?, gone] at polled

end Bench

end TwoWire
