import TwoWire.Proofs.SensorAccounts

/-! What is done with tasks, accounted for by events.

A task that ends or waits has left its bus to others, with one exception: a probe that pauses owns
its bus. So the buses that probes own are attended as long as no such task is dropped.
-/

namespace TwoWire

open Scene
open Magnetometer

namespace Bench

variable {rules : ClientRules} {trials left : PerBus (Option Nat)} {bench : Bench}
  {action : Action} {number : Option Nat} {outcome : Answer × Bench} {accepted : List Handle}
  {events : List Scene.Event}

/-- Dropping a task causes no event, so what happens then accounts for the whole. -/
theorem Accounts.ofDiscard {number : Nat}
    (accounts : (bench.discard number).Accounts rules trials action outcome accepted events left)
    : bench.Accounts rules trials action outcome accepted events left :=
  ⟨accounts.moves, accounts.tracks, accounts.told, accounts.streams, accounts.causes,
    accounts.sensors⟩

theorem Accounts.ofVacate
    (accounts : (bench.vacate number).Accounts rules trials action outcome accepted events left)
    : bench.Accounts rules trials action outcome accepted events left := by
  cases number with
  | none => exact accounts
  | some number => exact accounts.ofDiscard

/-- Keeping a task that waits causes no event either. -/
theorem Accounts.keep {answer : Answer} {next : Bench} {task : Task}
    (accounts : bench.Accounts rules trials action (answer, next) accepted events left)
    (free : ∀ entry ∈ next.tasks, number ≠ some entry.1)
    (sound : task.Sound rules ⟨next.master, left⟩)
    (alone
      : ∀ bus, task.holds? = some bus → ∀ entry ∈ next.tasks, entry.2.holds? ≠ some bus)
    : bench.Accounts rules trials action (answer, next.keep task number) accepted events
        left := by
  have tracks := accounts.tracks.keep free sound alone
  cases number with
  | none => exact accounts
  | some number =>
      exact ⟨accounts.moves, tracks, accounts.told, accounts.streams, accounts.causes,
        accounts.sensors⟩

-----------------------------------------------------------------------------------------
-- Operations of clients, and bring-ups
-----------------------------------------------------------------------------------------

/-- An operation is served, ends without having done anything, or waits for its bus. -/
theorem Tracks.settlesOperation (tracks : bench.Tracks rules trials)
    (free : ∀ entry ∈ bench.tasks, number ≠ some entry.1) {operation : Operation}
    {progress : Poll Claiming (Except MasterError Reply) × Master}
    (settles : bench.master.Settles .client rules.operation operation progress)
    : ∃ events,
        bench.Accounts rules trials action (bench.settleOperation number progress)
          (operation.accepted progress.1) events trials
        ∧ (bench.Attends trials → (bench.settleOperation number progress).2.Attends trials) := by
  obtain ⟨outcome, master⟩ := progress
  obtain ⟨serves, waits⟩ := settles
  cases outcome with
  | ready answer =>
      obtain ⟨events, accounts⟩ := tracks.serves serves
      exact ⟨events, accounts, fun attends => attends⟩
  | pending claiming =>
      obtain ⟨events, accounts⟩ := tracks.serves serves
      obtain ⟨permitted, known⟩ := waits claiming rfl
      have after := (congrArg (SlaveTable.get? · _) serves.slaves).trans known
      refine ⟨events, accounts.keep free ⟨permitted, after⟩ (by simp [Task.holds?]), ?_⟩
      intro attends
      exact (show Attends trials { bench with master } from attends).keep _ number

/-- A bring-up goes on by serving single bytes, and it owns no bus while it waits. -/
theorem Tracks.settlesBringUp (tracks : bench.Tracks rules trials) {index : Nat}
    {sensor after : Sensor} (here : bench.sensors[index]? = some sensor)
    (stays : sensor.Stays after) (free : ∀ entry ∈ bench.tasks, number ≠ some entry.1)
    {progress : Progress} (goes : BringUp.Goes bench.master progress)
    : let (outcome, delay, master) := progress
      ∃ events,
        bench.Accounts rules trials action
          (bench.settleBringUp index number (outcome, after, delay, master)) [] events trials
        ∧ (bench.Attends trials
          → (bench.settleBringUp index number (outcome, after, delay, master)).2.Attends
              trials) := by
  obtain ⟨outcome, delay, master⟩ := progress
  obtain ⟨serves, waits⟩ := goes
  obtain ⟨events, moves, streams, all⟩ := serves.moves (by simp) trials
  have settled
      : ({ bench with master }.setSensor index after).Tracks rules trials := by
    refine tracks.setSensor here moves ?_ stays.slave (fun _ held => stays.handle ▸ held) ?_ ?_
    · intro bus event member
      obtain ⟨_, _, rfl, -⟩ := all event member
      exact fun probes => probes
    · have homed := (tracks.homed here).stays stays
      exact ⟨homed.fresh, fun handle place => moves.known (homed.known handle place)⟩
    · intro handle slave found
      exact .inl ((congrArg (SlaveTable.get? · _) serves.slaves).symm.trans found)
  have accounts {answer : Answer} (quiet : answer.notice = none)
      : bench.Accounts rules trials action
          (answer, { bench with master }.setSensor index after) [] events trials := by
    refine ⟨moves, settled, ?_, streams, ?_, slaves_setSensor here stays.slave⟩
    · rw [quiet]
      exact Master.Serves.untold all
    · intro event member
      obtain ⟨_, _, rfl, single⟩ := all event member
      exact single
  cases outcome with
  | ready answer => exact ⟨events, accounts rfl, fun attends => attends⟩
  | pending rest =>
      refine ⟨events, (accounts rfl).keep free ?_ (by simp [Task.holds?]), ?_⟩
      · exact fun claiming same => waits rest claiming rfl same
      · intro attends
        exact (show Attends trials ({ bench with master }.setSensor index after)
          from attends).keep _ number

-----------------------------------------------------------------------------------------
-- Standby probes
-----------------------------------------------------------------------------------------

/-- A probe that owned its bus gave it back, or it waits as the only task that owns this bus. -/
theorem Tracks.settlesStandby (tracks : bench.Tracks rules trials) {slave : Slave}
    (free : ∀ entry ∈ bench.tasks, number ≠ some entry.1)
    (alone : ∀ entry ∈ bench.tasks, entry.2.holds? ≠ some slave.bus) {delay : Delay}
    {outcome : Poll Standby (Except MasterError Unit)} {master : Master}
    (probes : Scene.Probes ⟨bench.master, trials⟩ slave outcome events ⟨master, left⟩)
    : bench.Accounts rules trials action
        (bench.settleStandby number (outcome, delay, master)) [] events left := by
  have settled : { bench with master }.Tracks rules left := by
    refine tracks.after probes.moves ?_ ?_
    · intro entry member bus holds event occurred tries
      have own : slave.bus = bus := by
        rcases probes.own event occurred with ⟨_, rfl⟩ | rfl | rfl <;> exact tries
      exact alone entry member (own ▸ holds)
    · intro guest occurred
      rcases probes.own _ occurred with ⟨_, other⟩ | other | other <;> simp at other
  have accounts {answer : Answer} (quiet : answer.notice = none)
      : bench.Accounts rules trials action (answer, { bench with master }) [] events left := by
    refine ⟨probes.moves, settled, ?_, ?_, ?_, rfl⟩
    · rw [quiet]
      refine List.filterMap_eq_nil_iff.mpr (fun event member => ?_)
      rcases probes.own event member with ⟨_, rfl⟩ | rfl | rfl <;> rfl
    · refine List.flatMap_eq_nil_iff.mpr (fun event member => ?_)
      rcases probes.own event member with ⟨_, rfl⟩ | rfl | rfl <;> rfl
    · intro event member
      rcases probes.own event member with ⟨_, rfl⟩ | rfl | rfl <;> exact True.intro
  cases outcome with
  | ready answer => exact accounts rfl
  | pending standby =>
      obtain ⟨paused, rfl, suspended⟩ := probes.waits standby rfl
      refine (accounts rfl).keep free suspended ?_
      intro bus given
      cases given
      exact alone

/-- The bus of a probe that was kept is attended, and the other buses are as before. -/
theorem Attends.settlesStandby {slave : Slave}
    (others
      : ∀ bus left, bus ≠ slave.bus → trials.get bus = some left
        → ∃ entry ∈ bench.tasks, entry.2.holds? = some bus)
    {delay : Delay} {outcome : Poll Standby (Except MasterError Unit)} {master : Master}
    (probes : Scene.Probes ⟨bench.master, trials⟩ slave outcome events ⟨master, left⟩)
    (kept : ∀ rest, outcome = .pending rest → number ≠ none)
    : (bench.settleStandby number (outcome, delay, master)).2.Attends left := by
  have elsewhere (bus : BusId) (other : bus ≠ slave.bus)
      : left.get bus = trials.get bus := by
    refine probes.moves.trials_eq ?_
    intro event occurred tries
    have own : slave.bus = bus := by
      rcases probes.own event occurred with ⟨_, rfl⟩ | rfl | rfl <;> exact tries
    exact other own.symm
  intro bus budget present
  by_cases own : bus = slave.bus
  · subst own
    cases outcome with
    | ready answer =>
        have ended : left.get slave.bus = none := probes.ends answer rfl
        simp [ended] at present
    | pending standby =>
        obtain ⟨paused, rfl, -⟩ := probes.waits standby rfl
        cases number with
        | none => exact absurd rfl (kept _ rfl)
        | some number => exact ⟨_, List.mem_cons_self, rfl⟩
  · obtain ⟨entry, member, holds⟩ := others bus budget own (elsewhere bus own ▸ present)
    refine ⟨entry, ?_, holds⟩
    cases outcome with
    | ready answer => exact member
    | pending standby =>
        cases number with
        | none => exact absurd rfl (kept _ rfl)
        | some number => exact List.mem_cons_of_mem _ member

end Bench

end TwoWire
