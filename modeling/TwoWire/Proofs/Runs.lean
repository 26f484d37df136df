import TwoWire.Proofs.Footprints
import TwoWire.Proofs.TaskAccounts

/-! Runs of a bench: each action is accounted for, and so is what any number of them leads to. -/

namespace TwoWire

open Scene
open Magnetometer

namespace Bench

variable {rules : ClientRules} {trials left : PerBus (Option Nat)} {bench : Bench}
  {action : Action} {number : Option Nat} {task : Task}

-----------------------------------------------------------------------------------------
-- Tasks that are begun
-----------------------------------------------------------------------------------------

/-- If no probe that owns its bus is among the tasks that are dropped, the one that had to go was
none.
-/
theorem idle_of_kept {dropped : Option Task}
    (kept : ¬ ∃ task ∈ dropped.toList, task.holds?.isSome)
    : ∀ task, dropped = some task → task.holds? = none := by
  intro task equal
  subst equal
  simpa using kept

theorem Tracks.starts (tracks : bench.Tracks rules trials) {operation : Operation}
    (permitted : rules.operation operation)
    : ∃ events,
        bench.Accounts rules trials (.start operation number)
          (bench.step (.start operation number))
          (operation.accepted (bench.master.start operation).1) events trials
        ∧ (bench.Attends trials → ¬ bench.Abandons (.start operation number)
          → (bench.step (.start operation number)).2.Attends trials) := by
  have settles
      : (bench.vacate number).master.Settles .client rules.operation operation
          (bench.master.start operation) := by
    rw [vacate_master]
    exact bench.master.settles_start permitted
  obtain ⟨events, accounts, attended⟩ :=
    (tracks.vacate number).settlesOperation (bench.free_vacate number) settles
  exact ⟨events, accounts.ofVacate,
    fun attends kept => attended (attends.vacate tracks (idle_of_kept kept))⟩

/-- A bring-up that is begun goes as far as it can, if the sensor is ready for one. -/
theorem Tracks.bringsUp (tracks : bench.Tracks rules trials) {index : Nat} {sensor : Sensor}
    (here : bench.sensors[index]? = some sensor) {table : ParameterTable} {schedule : Schedule}
    : ∃ events,
        bench.Accounts rules trials action
          (bench.stepSensor index sensor (.bringUp table schedule number)) [] events trials
        ∧ (bench.Attends trials
          → ¬ bench.Abandons (.sensor index (.bringUp table schedule number))
          → (bench.stepSensor index sensor (.bringUp table schedule number)).2.Attends
              trials) := by
  have goes
      : BringUp.Goes (bench.vacate number).master
          ((sensor.startBringUp table (.new schedule) bench.master).1,
            (sensor.startBringUp table (.new schedule) bench.master).2.2) := by
    rw [vacate_master]
    exact sensor.goes_startBringUp table (.new schedule) bench.master
  have there : (bench.vacate number).sensors[index]? = some sensor := by
    rw [vacate_sensors]
    exact here
  obtain ⟨events, accounts, attended⟩ :=
    (tracks.vacate number).settlesBringUp there (sensor.stays_startBringUp _ _ _)
      (bench.free_vacate number) goes
  refine ⟨events, accounts.ofVacate, fun attends kept => attended ?_⟩
  refine attends.vacate tracks (idle_of_kept ?_)
  have inside := (List.getElem?_eq_some_iff.mp here).1
  simpa [Abandons, drops, inside] using kept

/-- A bus that is idle is owned by no task. -/
theorem Tracks.alone_of_free (tracks : bench.Tracks rules trials) {bus : BusId}
    (free : (bench.master.bus bus).owner = none)
    : ∀ entry ∈ bench.tasks, entry.2.holds? ≠ some bus := by
  intro held member holds
  obtain ⟨number, task⟩ := held
  have sound := tracks.tasks _ member
  match task with
  | .operation _ | .bringUp _ _ _ | .standby (.claiming _ _) _ => simp [Task.holds?] at holds
  | .standby (.pausing slave paused) _ =>
      obtain rfl := Option.some.inj holds
      obtain ⟨-, handle, -, held⟩ := sound
      simp [free] at held

/-- A probe that claims its bus, or waits for it, leaves the bookkeeping right. -/
theorem Tracks.claims (tracks : bench.Tracks rules trials)
    (free : ∀ entry ∈ bench.tasks, number ≠ some entry.1) {handle : Handle} {slave : Slave}
    (found : bench.master.slaves.get? handle = some slave) (delay : Delay)
    : ∃ events left,
        bench.Accounts rules trials action
          (bench.settleStandby number (bench.master.claimStandby handle slave delay)) [] events
          left
        ∧ (bench.Attends trials
          → (∀ rest, (bench.master.claimStandby handle slave delay).1 = .pending rest
            → number = none → ∃ handle slave, rest = .claiming handle slave)
          → (bench.settleStandby number
                (bench.master.claimStandby handle slave delay)).2.Attends left) := by
  have claims := tracks.coherent.claimStandby found delay
  generalize bench.master.claimStandby handle slave delay = progress at claims ⊢
  obtain ⟨outcome, spent, master⟩ := progress
  rcases claims with waits | ⟨idle, events, left, probes⟩
  · obtain ⟨rfl, rfl, rfl⟩ : outcome = _ ∧ spent = _ ∧ master = _ := by simpa using waits
    refine ⟨[], trials, (tracks.unchanged rfl).keep free found (by simp [Task.holds?]), ?_⟩
    exact fun attends _ => attends.keep _ number
  · refine ⟨events, left, tracks.settlesStandby free (tracks.alone_of_free idle) probes, ?_⟩
    intro attends kept
    refine Attends.settlesStandby (fun bus budget _ => attends bus budget) probes ?_
    intro rest waiting equal
    subst equal
    obtain ⟨_, _, rfl⟩ := kept rest waiting rfl
    obtain ⟨_, other, -⟩ := probes.waits _ waiting
    simp at other

theorem Tracks.probes (tracks : bench.Tracks rules trials) {handle : Handle} {schedule : Schedule}
    : ∃ events left,
        bench.Accounts rules trials action (bench.step (.standby handle schedule number)) []
          events left
        ∧ (bench.Attends trials → ¬ bench.Abandons (.standby handle schedule number)
          → (bench.step (.standby handle schedule number)).2.Attends left) := by
  have vacated := tracks.vacate number
  have attended (attends : bench.Attends trials)
      (kept : ¬ bench.Abandons (.standby handle schedule number))
      : (bench.vacate number).Attends trials := by
    cases number with
    | none => exact attends
    | some number => exact attends.vacate tracks (idle_of_kept kept)
  simp only [step]
  cases resolved : bench.master.resolve handle with
  | error cause =>
      have refused : bench.master.startStandby handle (.new schedule)
          = (.ready (.error cause), .new schedule, (bench.vacate number).master) := by
        simp only [Master.startStandby, resolved, vacate_master]
      rw [refused]
      exact ⟨[], trials, (vacated.unchanged rfl).ofVacate, attended⟩
  | ok slave =>
      have found := (Master.get?_of_resolve resolved).1
      rw [← vacate_master bench number] at found
      have claimed : bench.master.startStandby handle (.new schedule)
          = (bench.vacate number).master.claimStandby handle slave (.new schedule) := by
        simp only [Master.startStandby, resolved, vacate_master]
      obtain ⟨events, left, accounts, attends⟩ :=
        vacated.claims (bench.free_vacate number) found (.new schedule)
      rw [claimed]
      refine ⟨events, left, accounts.ofVacate, fun before kept =>
        attends (attended before kept) ?_⟩
      intro rest waiting equal
      subst equal
      cases rest with
      | claiming handle slave => exact ⟨handle, slave, rfl⟩
      | pausing slave paused =>
          refine absurd ?_ kept
          simp only [Abandons, drops, claimed]
          generalize (bench.vacate none).master.claimStandby handle _ _ = progress at waiting
          obtain ⟨outcome, spent, master⟩ := progress
          obtain rfl : outcome = .pending (.pausing slave paused) := waiting
          exact ⟨_, List.mem_singleton_self _, rfl⟩

-----------------------------------------------------------------------------------------
-- Tasks that are polled
-----------------------------------------------------------------------------------------

/-- The other tasks own other buses than the task with a number. -/
theorem Tracks.alone_of_task? (tracks : bench.Tracks rules trials) {number : Nat} {bus : BusId}
    (polled : bench.task? number = some task) (holds : task.holds? = some bus)
    : ∀ entry ∈ (bench.discard number).tasks, entry.2.holds? ≠ some bus := by
  obtain ⟨before, after, split, -⟩ := List.lookup_eq_some_iff.mp polled
  have apart := tracks.apart
  rw [split] at apart
  obtain ⟨-, right, across⟩ := List.pairwise_append.mp apart
  obtain ⟨later, -⟩ := List.pairwise_cons.mp right
  intro entry member
  obtain ⟨old, other⟩ := List.mem_filter.mp member
  rw [split] at old
  rcases List.mem_append.mp old with first | second
  · exact fun same => (across entry first _ List.mem_cons_self).2 bus same holds
  · rcases List.mem_cons.mp second with rfl | last
    · simp at other
    · exact (later entry last).2 bus holds

/-- A task goes on from where it waited, by cases on what it is. -/
theorem Tracks.polls (tracks : bench.Tracks rules trials) {number : Nat}
    (polled : bench.task? number = some task)
    : ∃ events left,
        bench.Accounts rules trials action ((bench.discard number).resume number task)
          (Task.accepted bench.master task) events left
        ∧ (bench.Attends trials
          → ((bench.discard number).resume number task).2.Attends left) := by
  have sound : task.Sound rules ⟨bench.master, trials⟩ :=
    tracks.tasks (number, task) (mem_tasks_of_task? polled)
  have discarded := tracks.discard number
  have free := bench.free_vacate (some number)
  have attended (idle : task.holds? = none) (attends : bench.Attends trials)
      : (bench.discard number).Attends trials := by
    refine attends.discard tracks ?_
    intro current same
    obtain rfl := Option.some.inj (polled.symm.trans same)
    exact idle
  cases task with
  | operation rest =>
      obtain ⟨events, accounts, attends⟩ :=
        discarded.settlesOperation free (Master.settles_resume sound.1 sound.2)
      exact ⟨events, trials, accounts.ofDiscard, attends ∘ attended rfl⟩
  | standby rest delay =>
      cases rest with
      | claiming handle slave =>
          obtain ⟨events, left, accounts, attends⟩ := discarded.claims free sound delay
          exact ⟨events, left, accounts.ofDiscard,
            fun before => attends (attended rfl before) (fun _ _ same => by simp at same)⟩
      | pausing slave paused =>
          have suspended : Suspends ⟨bench.master, trials⟩ slave paused := sound
          obtain ⟨events, left, probes⟩ := tracks.coherent.resumeStandby suspended delay
          refine ⟨events, left, (discarded.settlesStandby free
            (tracks.alone_of_task? polled rfl) probes).ofDiscard, ?_⟩
          intro attends
          refine Attends.settlesStandby ?_ probes (by simp)
          intro bus budget other present
          obtain ⟨entry, member, holds⟩ := attends bus budget present
          refine ⟨entry, List.mem_filter.mpr ⟨member, ?_⟩, holds⟩
          have kept : entry.1 ≠ number := by
            intro equal
            subst equal
            obtain same := (tracks.task?_of_mem member).symm.trans polled
            rw [Option.some.inj same] at holds
            exact other (Option.some.inj holds).symm
          simpa using kept
  | bringUp index rest delay =>
      simp only [resume]
      cases here : (bench.discard number).sensors[index]? with
      | none =>
          exact ⟨[], trials, (discarded.unchanged rfl).ofDiscard, attended rfl⟩
      | some sensor =>
          obtain ⟨events, accounts, attends⟩ := discarded.settlesBringUp here
            (sensor.stays_settle _) free (BringUp.goes_resume sound delay)
          exact ⟨events, trials, accounts.ofDiscard, attends ∘ attended rfl⟩

/-- Dropping a task causes no event. -/
theorem Tracks.dropsTask (tracks : bench.Tracks rules trials) (number : Nat)
    : bench.Accounts rules trials action (bench.step (.drop number)) [] [] trials
      ∧ (bench.Attends trials → ¬ bench.Abandons (.drop number)
        → (bench.step (.drop number)).2.Attends trials) := by
  refine ⟨((tracks.discard number).unchanged rfl).ofDiscard, fun attends kept => ?_⟩
  exact attends.discard tracks (idle_of_kept kept)

-----------------------------------------------------------------------------------------
-- Actions and runs
-----------------------------------------------------------------------------------------

/-- Whatever is done with a sensor is accounted for, by cases on what it is. -/
theorem Tracks.stepsSensor (tracks : bench.Tracks rules trials) {index : Nat} {sensor : Sensor}
    (here : bench.sensors[index]? = some sensor) (action : SensorAction)
    : ∃ events,
        bench.Accounts rules trials (.sensor index action) (bench.stepSensor index sensor action)
          (sensor.accepts bench.master action) events trials
        ∧ (bench.Attends trials → ¬ bench.Abandons (.sensor index action)
          → (bench.stepSensor index sensor action).2.Attends trials) := by
  cases action with
  | register =>
      obtain ⟨events, accounts⟩ := tracks.registersSensor here
      exact ⟨events, accounts, fun attends _ => attends⟩
  | bringUp table schedule number => exact tracks.bringsUp here
  | enable =>
      exact ⟨[], tracks.adjusts here sensor.stays_enable, fun attends _ => attends⟩
  | disable =>
      exact ⟨[], tracks.adjusts here sensor.stays_disable, fun attends _ => attends⟩
  | dataReady =>
      obtain ⟨events, accounts, -⟩ := tracks.captures here
      exact ⟨events, accounts, fun attends _ => attends⟩
  | decode temperature now =>
      exact ⟨[], tracks.adjusts here (sensor.stays_decode bench.master temperature now),
        fun attends _ => attends⟩

/-- Every action that keeps to the rules is accounted for, and it leaves no bus unattended unless
it drops the probe that owns it. The proof is by cases on the action.
-/
theorem Tracks.step (tracks : bench.Tracks rules trials) (keeps : action.Keeps rules)
    : ∃ events left,
        bench.Accounts rules trials action (bench.step action) (bench.accepts action) events left
        ∧ (bench.Attends trials → ¬ bench.Abandons action
          → (bench.step action).2.Attends left) := by
  have calm {events : List Scene.Event}
      (accounts
        : bench.Accounts rules trials action (bench.step action) (bench.accepts action) events
            trials)
      (same : (bench.step action).2.tasks = bench.tasks)
      : ∃ events left,
          bench.Accounts rules trials action (bench.step action) (bench.accepts action) events
            left
          ∧ (bench.Attends trials → ¬ bench.Abandons action
            → (bench.step action).2.Attends left) := by
    refine ⟨events, trials, accounts, fun attends _ bus budget present => ?_⟩
    rw [same]
    exact attends bus budget present
  cases action with
  | configureAll =>
      obtain ⟨events, accounts⟩ := tracks.configures
      exact calm accounts rfl
  | register slave =>
      obtain ⟨events, accounts⟩ := tracks.registers keeps
      exact calm accounts rfl
  | tryTransfer request =>
      obtain ⟨events, accounts⟩ := tracks.serves (bench.master.serves_tryTransfer keeps)
      exact calm accounts rfl
  | start operation number =>
      obtain ⟨events, accounts, attended⟩ := tracks.starts keeps
      exact ⟨events, trials, accounts, attended⟩
  | standby handle schedule number => exact tracks.probes
  | poll number =>
      simp only [Bench.step, accepts]
      cases polled : bench.task? number with
      | none => exact ⟨[], trials, tracks.unchanged rfl, fun attends _ => attends⟩
      | some task =>
          obtain ⟨events, left, accounts, attended⟩ := tracks.polls polled
          rw [Option.toList_some, List.flatMap_cons, List.flatMap_nil, List.append_nil]
          exact ⟨events, left, accounts, fun attends _ => attended attends⟩
  | drop number =>
      obtain ⟨accounts, attended⟩ := tracks.dropsTask number
      exact ⟨[], trials, accounts, attended⟩
  | complete bus stream =>
      obtain ⟨events, accounts⟩ := tracks.completes bus stream
      exact calm accounts rfl
  | advanceRing index =>
      simp only [Bench.step]
      cases here : bench.sensors[index]? with
      | none => exact ⟨[], trials, tracks.unchanged rfl, fun attends _ => attends⟩
      | some sensor =>
          refine ⟨_, trials, tracks.accounts (.single (.advance sensor.ring)) rfl rfl ?_,
            fun attends _ => attends⟩
          intro event member
          obtain rfl := List.mem_singleton.mp member
          exact ⟨⟨index, sensor, rfl, here, rfl⟩, fun _ probes => probes, by simp⟩
  | arrange bus arrangement =>
      obtain ⟨events, accounts⟩ := tracks.touches bus
        (fun peripheral => (.done, peripheral.arrange arrangement))
        (fun peripheral => peripheral.says_arrange arrangement)
      exact calm accounts (bench.tasks_withPeripheral bus _)
  | forget bus =>
      obtain ⟨events, accounts⟩ := tracks.forgets bus
      exact calm accounts (bench.tasks_withPeripheral bus _)
  | deliver bus data =>
      exact calm (tracks.delivers bus data) (bench.tasks_deliver bus data)
  | drain bus =>
      obtain ⟨events, accounts⟩ := tracks.drains bus
      exact calm accounts (bench.tasks_withPeripheral bus _)
  | raise | manual => exact absurd keeps id
  | sensor index action =>
      simp only [Bench.step, accepts]
      cases here : bench.sensors[index]? with
      | none => exact ⟨[], trials, tracks.unchanged rfl, fun attends _ => attends⟩
      | some sensor =>
          obtain ⟨events, accounts, attended⟩ := tracks.stepsSensor here action
          rw [Option.toList_some, List.flatMap_cons, List.flatMap_nil, List.append_nil]
          exact ⟨events, trials, accounts, attended⟩

/-- A rule for actions is followed throughout a run. -/
def Follows (rule : Bench → Action → Prop) : Bench → List Action → Prop
  | _, [] => True
  | bench, action :: rest => rule bench action ∧ Follows rule (bench.step action).2 rest

/-- What every action that follows a rule keeps is kept by a run, by induction over its actions. -/
theorem Follows.preserve {rule : Bench → Action → Prop} {Holds : Bench → Prop}
    (step : ∀ bench action, Holds bench → rule bench action → Holds (bench.step action).2)
    {bench : Bench} {actions : List Action} (follows : Follows rule bench actions)
    (start : Holds bench)
    : Holds (bench.run actions).2 := by
  induction actions generalizing bench with
  | nil => exact start
  | cons action rest ih => exact ih follows.2 (step bench action start follows.1)

/-- The bookkeeping stays right in a run whose actions keep to the rules. Handles go on standing for
their slaves, and the sensors stay the slaves that they were.
-/
theorem Follows.tracks {rule : Bench → Action → Prop} {actions : List Action}
    (follows : Follows rule bench actions)
    (keeps : ∀ bench action, rule bench action → action.Keeps rules)
    (tracks : bench.Tracks rules trials)
    : ∃ left,
        (bench.run actions).2.Tracks rules left
        ∧ (bench.run actions).2.sensors.map Sensor.slave = bench.sensors.map Sensor.slave
        ∧ ∀ {handle slave},
            bench.master.slaves.get? handle = some slave
            → (bench.run actions).2.master.slaves.get? handle = some slave := by
  induction actions generalizing bench trials with
  | nil => exact ⟨trials, tracks, rfl, id⟩
  | cons action rest ih =>
      obtain ⟨events, middle, accounts, -⟩ := tracks.step (keeps bench action follows.1)
      obtain ⟨left, last, sensors, known⟩ := ih follows.2 accounts.tracks
      exact ⟨left, last, sensors.trans accounts.sensors,
        fun found => known (accounts.moves.known found)⟩

/-- A run that goes on is a run that begins where the first ended. -/
theorem run_append (bench : Bench) (earlier later : List Action)
    : (bench.run (earlier ++ later)).2 = ((bench.run earlier).2.run later).2 := by
  induction earlier generalizing bench with
  | nil => rfl
  | cons action rest ih => exact ih (bench.step action).2

/-- Both parts of a run follow the rule of the whole, by induction over the first part. -/
theorem Follows.split {rule : Bench → Action → Prop} {earlier later : List Action}
    (follows : Follows rule bench (earlier ++ later))
    : Follows rule bench earlier ∧ Follows rule (bench.run earlier).2 later := by
  induction earlier generalizing bench with
  | nil => exact ⟨True.intro, follows⟩
  | cons action rest ih =>
      obtain ⟨first, last⟩ := ih follows.2
      exact ⟨⟨follows.1, first⟩, last⟩

/-- A bench with new peripherals on some of its buses. -/
def assemble (capacity : Fin 255) (paces : PerBus (Option Pace)) (buffers : List (List UInt8))
    (sensors : List (Config × Nat))
    : Bench :=
  .new capacity (.ofFn fun id => (paces.get id).map .new) buffers sensors

/-- On a bench that was just assembled there are no slaves, no tasks and no probes. -/
theorem tracks_assemble (capacity : Fin 255) (paces : PerBus (Option Pace))
    (buffers : List (List UInt8)) (sensors : List (Config × Nat))
    : (assemble capacity paces buffers sensors).Tracks rules (.ofFn fun _ => none) where
  coherent := Scene.coherent_new capacity paces _
  tasks _ member := absurd member List.not_mem_nil
  apart := .nil
  sensors sensor member := by
    obtain ⟨⟨config, ring⟩, -, rfl⟩ := List.mem_map.mp member
    exact ⟨fun _ => rfl, fun _ held => absurd held (by simp [Sensor.new])⟩
  entries found := by
    simp [assemble, Bench.new, Master.new, SlaveTable.empty, SlaveTable.get?] at found

theorem attends_assemble {capacity : Fin 255} {paces : PerBus (Option Pace)}
    {buffers : List (List UInt8)} {sensors : List (Config × Nat)}
    : (assemble capacity paces buffers sensors).Attends (.ofFn fun _ => none) := by
  intro bus left budget
  simp at budget

end Bench

end TwoWire
