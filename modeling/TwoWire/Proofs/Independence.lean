import TwoWire.Proofs.Locality

/-! Actions on different buses can happen in either order.

An action on one bus is answered from the slaves, that bus and its own part of the memory, and it
changes no more than these. Of the tasks it sees only the one that it begins or polls.
-/

namespace TwoWire

open Magnetometer

/-- What an action did to the master, with its answer and the task that waits afterwards. -/
abbrev Deed := (Answer × Option Task) × Master

namespace Deed

def ofOperation : Poll Claiming (Except MasterError Reply) × Master → Deed
  | (.ready outcome, master) => ((.ofResult (.ofMaster .ofReply outcome), none), master)
  | (.pending rest, master) => ((.ofResult .pending, some (.operation rest)), master)

def ofStandby : Poll Standby (Except MasterError Unit) × Delay × Master → Deed
  | (.ready outcome, delay, master) =>
    ((⟨.ofMaster (fun _ => .done) outcome, some delay, none⟩, none), master)
  | (.pending rest, delay, master) =>
    ((⟨.pending, some delay, none⟩, some (.standby rest delay)), master)

/-- What happened on a bench without tasks. -/
def ofStep : Answer × Bench → Deed
  | (answer, bench) => ((answer, none), bench.master)

end Deed

/-- What an action does to a master, given the task that it polls. An action that neither begins
nor polls a task does the same on a bench that has no tasks.
-/
def Action.deed (polled : Option Task) (action : Action) (master : Master) : Deed :=
  match action with
  | .start operation _ => .ofOperation (master.start operation)
  | .standby handle schedule _ => .ofStandby (master.startStandby handle (.new schedule))
  | .poll _ =>
    match polled with
    | some (.operation rest) => .ofOperation (master.resume rest)
    | some (.standby rest delay) => .ofStandby (master.resumeStandby rest delay)
    | _ => ((.ofResult .noTask, none), master)
  | action => .ofStep ((Bench.mk master [] []).step action)

/-- A task that waits on this bus and moves no bytes but of this part of the memory. -/
inductive Task.StaysOn (id : BusId) (area : Set Place) : Task → Prop
  | operation {rest} (home : rest.slave.bus = id) (inside : rest.operation.Inside area)
    : StaysOn id area (.operation rest)
  | standby {rest delay} (home : rest.slave.bus = id) : StaysOn id area (.standby rest delay)

namespace Bench

/-- An action of clients, of an interrupt or of the simulated hardware that is about one bus and a
part of the memory. A completion is so if the client of the slave that it may tell is.
-/
inductive Within (bench : Bench) (id : BusId) (area : Set Place) : Action → Prop
  | tryTransfer {request} (stays : request.StaysOn bench.master.slaves id area)
    : Within bench id area (.tryTransfer request)
  | start {operation number}
    (home : ∀ slave, bench.master.slaves.get? operation.handle = some slave → slave.bus = id)
    (inside : operation.Inside area)
    : Within bench id area (.start operation number)
  | standby {handle schedule number}
    (home : ∀ slave, bench.master.slaves.get? handle = some slave → slave.bus = id)
    : Within bench id area (.standby handle schedule number)
  | poll {number} (stays : ∀ task, bench.task? number = some task → task.StaysOn id area)
    : Within bench id area (.poll number)
  | complete {stream}
    (stays
      : ∀ handle slave, (bench.master.bus id).owner = some handle
        → bench.master.slaves.get? handle = some slave
        → slave.reaction.StaysOn bench.master.slaves id area)
    : Within bench id area (.complete id stream)
  | arrange {arrangement} : Within bench id area (.arrange id arrangement)
  | forget : Within bench id area (.forget id)
  | raise {stream} : Within bench id area (.raise id stream)
  | manual {access} : Within bench id area (.manual id access)
  | deliver {data}
    (inside
      : ∀ peripheral window, bench.master.peripheral? id = some peripheral
        → peripheral.armed = some (.rx, window)
        → window.places ⊆ area)
    : Within bench id area (.deliver id data)
  | drain
    (inside
      : ∀ peripheral window, bench.master.peripheral? id = some peripheral
        → peripheral.armed = some (.tx, window)
        → window.places ⊆ area)
    : Within bench id area (.drain id)

/-- The task that an action polls. -/
def polled? (bench : Bench) : Action → Option Task
  | .poll number => bench.task? number
  | _ => none

/-- Let a master go on as it did, and keep the task that waits, if there is one. -/
def enact (bench : Bench) (number : Option Nat) : Deed → Answer × Bench
  | ((answer, none), master) => (answer, { bench.vacate number with master })
  | ((answer, some task), master) => (answer, { bench.vacate number with master }.keep task number)

variable {bench : Bench} {id home : BusId} {area elsewhere : Set Place} {action : Action}
  {master other : Master} {number : Option Nat}

-----------------------------------------------------------------------------------------
-- Actions as deeds
-----------------------------------------------------------------------------------------

theorem enact_ofOperation (bench : Bench) (number : Option Nat)
    (progress : Poll Claiming (Except MasterError Reply) × Master)
    : (bench.vacate number).settleOperation number progress
      = bench.enact number (.ofOperation progress) := by
  obtain ⟨outcome, master⟩ := progress
  cases outcome <;> rfl

theorem enact_ofStandby (bench : Bench) (number : Option Nat)
    (progress : Poll Standby (Except MasterError Unit) × Delay × Master)
    : (bench.vacate number).settleStandby number progress
      = bench.enact number (.ofStandby progress) := by
  obtain ⟨outcome, delay, master⟩ := progress
  cases outcome <;> rfl

theorem enact_withPeripheral (bench : Bench) (id : BusId)
    (act : Peripheral → Result × Peripheral)
    : bench.withPeripheral id act
      = bench.enact none (.ofStep ((mk bench.master [] []).withPeripheral id act)) := by
  unfold withPeripheral
  dsimp only
  split <;> rfl

theorem enact_deliver (bench : Bench) (id : BusId) (data : List UInt8)
    : bench.deliver id data
      = bench.enact none (.ofStep ((mk bench.master [] []).deliver id data)) := by
  unfold deliver
  dsimp only
  split
  · rfl
  · split <;> rfl

/-- An action about one bus is what it does to the master, by cases on the action. -/
theorem Within.step (within : bench.Within id area action)
    : bench.step action
      = bench.enact action.names? (action.deed (bench.polled? action) bench.master) := by
  cases within with
  | tryTransfer | complete => rfl
  | start => exact bench.enact_ofOperation _ _
  | standby => exact bench.enact_ofStandby _ _
  | @poll number stays =>
      simp only [Bench.step, polled?]
      cases polled : bench.task? number with
      | none => simp [Action.deed, Action.names?, enact, vacate, discard_of_free polled]
      | some task =>
          cases stays task polled with
          | operation => exact bench.enact_ofOperation (some number) _
          | standby => exact bench.enact_ofStandby (some number) _
  | arrange | forget | raise | manual =>
      simp only [Bench.step, Action.deed]
      exact bench.enact_withPeripheral id _
  | drain => exact bench.enact_withPeripheral id _
  | deliver => exact bench.enact_deliver id _

-----------------------------------------------------------------------------------------
-- Deeds that keep to their bus
-----------------------------------------------------------------------------------------

/-- What is done with the peripheral of a bus keeps to that bus if it is done alike. -/
theorem twin_withPeripheral (alike : master.Alike id area other)
    {act otherAct : Peripheral → Result × Peripheral}
    (same
      : ∀ peripheral, master.peripheral? id = some peripheral
        → otherAct peripheral = act peripheral)
    : Master.Twin id area other (Deed.ofStep ((mk master [] []).withPeripheral id act))
        (Deed.ofStep ((mk other [] []).withPeripheral id otherAct)) := by
  simp only [withPeripheral, alike.peripheral]
  cases here : master.peripheral? id with
  | none => exact Master.twin_idle alike _
  | some peripheral =>
      simp only [same peripheral here, Master.setPeripheral, alike.bus]
      exact Master.twin_bus alike _ _

/-- Only the transfer that is armed on the stream can be taken away. -/
theorem armed_of_takeArmed {peripheral next : Peripheral} {stream : Stream} {window : Window}
    (taken : peripheral.takeArmed stream = some (window, next))
    : peripheral.armed = some (stream, window) := by
  unfold Peripheral.takeArmed at taken
  split at taken
  · rename_i current other armed
    split at taken
    · rename_i same
      obtain ⟨rfl, -⟩ := Prod.mk.inj (Option.some.inj taken)
      rw [armed, same]
    · simp at taken
  · simp at taken

/-- Bytes that arrive go to the window that is armed on the bus. -/
theorem keepsTo_deliver
    (inside
      : ∀ peripheral window, master.peripheral? id = some peripheral
        → peripheral.armed = some (.rx, window)
        → window.places ⊆ area)
    (data : List UInt8)
    : Master.KeepsTo id area (fun master => Deed.ofStep ((mk master [] []).deliver id data))
        master := by
  intro other alike
  simp only [deliver, alike.peripheral, Peripheral.deliver]
  cases here : master.peripheral? id with
  | none => exact Master.twin_idle alike _
  | some peripheral =>
      dsimp only
      cases taken : peripheral.takeArmed .rx with
      | none => exact Master.twin_idle alike _
      | some entry =>
          obtain ⟨window, next⟩ := entry
          simp only [Option.map_some, Master.setPeripheral, alike.bus]
          exact Master.twin_setBus alike (Memory.agrees_write alike.memory window data)
            (other.memory.spares_write
              (inside peripheral window here (armed_of_takeArmed taken)) data) _ _

/-- Bytes that are sent out come from the window that is armed on the bus. -/
theorem keepsTo_drain
    (inside
      : ∀ peripheral window, master.peripheral? id = some peripheral
        → peripheral.armed = some (.tx, window)
        → window.places ⊆ area)
    : Master.KeepsTo id area (fun master => Deed.ofStep ((mk master [] []).drain id)) master := by
  intro other alike
  refine twin_withPeripheral alike (fun peripheral here => ?_)
  simp only [Peripheral.drain]
  cases taken : peripheral.takeArmed .tx with
  | none => rfl
  | some entry =>
      obtain ⟨window, next⟩ := entry
      have read := Memory.read_congr alike.memory
        (inside peripheral window here (armed_of_takeArmed taken))
      simp only [Option.map_some, read]

/-- How an operation got on keeps to its bus with the task that waits. -/
theorem twin_ofOperation {progress twin : Poll Claiming (Except MasterError Reply) × Master}
    (same : Master.Twin id area other progress twin)
    : Master.Twin id area other (Deed.ofOperation progress) (Deed.ofOperation twin) := by
  obtain ⟨answer, alike, spares⟩ := same
  obtain ⟨outcome, next⟩ := progress
  obtain ⟨twinOutcome, last⟩ := twin
  obtain rfl : twinOutcome = outcome := answer
  cases twinOutcome <;> exact ⟨rfl, alike, spares⟩

theorem twin_ofStandby
    {progress twin : Poll Standby (Except MasterError Unit) × Delay × Master}
    (alike : master.Alike id area other)
    (mirrors : Master.Mirrors id master other progress twin)
    : Master.Twin id area other (Deed.ofStandby progress) (Deed.ofStandby twin) := by
  obtain ⟨answer, spent, bus, left, twinLeft⟩ := mirrors
  obtain ⟨outcome, delay, next⟩ := progress
  obtain ⟨twinOutcome, twinDelay, last⟩ := twin
  obtain rfl : twinOutcome = outcome := answer
  obtain rfl : twinDelay = delay := spent
  obtain rfl : next = master.setBus id bus := left
  obtain rfl : last = other.setBus id bus := twinLeft
  cases twinOutcome <;> exact Master.twin_bus alike _ bus

/-- Every action about one bus keeps to it, by cases on the action. -/
theorem Within.keepsTo (within : bench.Within id area action) (inhabited : bench.Inhabited)
    : bench.master.KeepsTo id area (action.deed (bench.polled? action)) := by
  intro other alike
  cases within with
  | tryTransfer stays =>
      obtain ⟨answer, same, spares⟩ := Master.keepsTo_tryTransfer stays other alike
      exact ⟨congrArg (fun outcome => (Answer.ofResult (.ofMaster (fun _ => .done) outcome), none))
        answer, same, spares⟩
  | start home inside =>
      exact twin_ofOperation (Master.keepsTo_start home inside other alike)
  | standby home =>
      exact twin_ofStandby alike (Master.mirrors_startStandby alike home _)
  | @poll number stays =>
      simp only [polled?]
      cases polled : bench.task? number with
      | none => exact Master.twin_idle alike _
      | some task =>
          cases stays task polled with
          | @operation rest home inside =>
              subst home
              exact twin_ofOperation (Master.keepsTo_resume rest inside other alike)
          | standby home =>
              subst home
              exact twin_ofStandby alike (Master.mirrors_resumeStandby alike _)
  | @complete stream stays =>
      obtain ⟨answer, same, spares⟩ :=
        Master.keepsTo_complete (inhabited.owners id) stays stream other alike
      exact ⟨congrArg (fun notice => (Answer.mk .done none notice, none)) answer, same, spares⟩
  | arrange | forget | raise | manual =>
      simp only [Action.deed, Bench.step]
      exact twin_withPeripheral alike (fun _ _ => rfl)
  | deliver inside => exact keepsTo_deliver inside _ other alike
  | drain inside => exact keepsTo_drain inside other alike

-----------------------------------------------------------------------------------------
-- Every run
-----------------------------------------------------------------------------------------

@[simp] theorem answer_enact (bench : Bench) (number : Option Nat) (deed : Deed)
    : (bench.enact number deed).1 = deed.1.1 := by
  obtain ⟨⟨answer, _ | task⟩, master⟩ := deed <;> rfl

@[simp] theorem master_enact (bench : Bench) (number : Option Nat) (deed : Deed)
    : (bench.enact number deed).2.master = deed.2 := by
  obtain ⟨⟨answer, _ | task⟩, master⟩ := deed <;> simp [enact]

@[simp] theorem sensors_enact (bench : Bench) (number : Option Nat) (deed : Deed)
    : (bench.enact number deed).2.sensors = bench.sensors := by
  obtain ⟨⟨answer, _ | task⟩, master⟩ := deed <;> simp [enact]

/-- Under its own number a deed leaves the task that waits, under any other what was there. -/
theorem task?_enact (bench : Bench) (number : Option Nat) (deed : Deed) (place : Nat)
    : (bench.enact number deed).2.task? place
      = if number = some place then deed.1.2 else bench.task? place := by
  obtain ⟨⟨answer, kept⟩, master⟩ := deed
  by_cases own : number = some place
  · subst own
    cases kept with
    | none =>
        have gone
            : ∀ number task, (number, task) ∈ bench.tasks → ¬number = place → ¬place = number :=
          fun _ _ _ other same => other same.symm
        simpa [enact, vacate, discard, task?] using gone
    | some task => simp [enact, task?_keep_self]
  · have room : ({ bench.vacate number with master } : Bench).task? place = bench.task? place :=
      task?_vacate_of_ne own
    cases kept with
    | none => simpa [enact, own] using room
    | some task => simpa [enact, own, task?_keep_of_ne _ _ own] using room

/-- What an action is about stays so while its slaves, its bus and its task stay, by cases on the
action.
-/
theorem Within.carried {next : Bench} (within : bench.Within id area action)
    (slaves : next.master.slaves = bench.master.slaves)
    (bus : next.master.bus id = bench.master.bus id)
    (task : ∀ number, action.names? = some number → next.task? number = bench.task? number)
    : next.Within id area action := by
  have peripheral : next.master.peripheral? id = bench.master.peripheral? id :=
    congrArg Bus.peripheral bus
  cases within with
  | tryTransfer stays => exact .tryTransfer (slaves ▸ stays)
  | start home inside => exact .start (slaves ▸ home) inside
  | standby home => exact .standby (slaves ▸ home)
  | poll stays => exact .poll (task _ rfl ▸ stays)
  | complete stays => exact .complete (slaves ▸ bus ▸ stays)
  | arrange => exact .arrange
  | forget => exact .forget
  | raise => exact .raise
  | manual => exact .manual
  | deliver inside => exact .deliver (peripheral ▸ inside)
  | drain inside => exact .drain (peripheral ▸ inside)

/-- An action that happens after one on another bus does what it would have done before. -/
theorem Within.step_after {first second : Action} (inhabited : bench.Inhabited)
    (firstWithin : bench.Within id area first)
    (secondWithin : bench.Within home elsewhere second) (distinct : id ≠ home)
    (names : ∀ number, first.names? = some number → second.names? ≠ some number)
    : (bench.step first).2.step second
      = (bench.step first).2.enact second.names?
          (second.deed (bench.polled? second)
            (first.deed (bench.polled? first) bench.master).2) := by
  have spares := (firstWithin.keepsTo inhabited).spares
  have task (number : Nat) (named : second.names? = some number)
      : (bench.step first).2.task? number = bench.task? number := by
    rw [firstWithin.step, task?_enact, if_neg (fun same => names number same named)]
  have after : (bench.step first).2.Within home elsewhere second := by
    refine secondWithin.carried ?_ ?_ task
    · rw [firstWithin.step, master_enact]
      exact spares.slaves
    · rw [firstWithin.step, master_enact]
      exact spares.buses home distinct.symm
  have polled : (bench.step first).2.polled? second = bench.polled? second := by
    cases second with
    | poll number => exact task number rfl
    | _ => rfl
  rw [after.step, polled, firstWithin.step, master_enact]

/-- Whatever was done before, two actions on different buses and on separate parts of the memory are
answered alike in either order, those who are told included, and leave the same behind. A client
that is told looks at no more than its own bus and its part of the memory, and asks for transfers
there. None of them changes anything on another bus.
-/
theorem buses_are_independent (capacity : Fin 255) (paces : PerBus (Option Pace))
    (buffers : List (List UInt8)) (sensors : List (Config × Nat)) (actions : List Action)
    {first second : Action}
    (firstWithin
      : ((assemble capacity paces buffers sensors).run actions).2.Within id area first)
    (secondWithin
      : ((assemble capacity paces buffers sensors).run actions).2.Within home elsewhere second)
    (distinct : id ≠ home) (apart : Disjoint area elsewhere)
    (names : ∀ number, first.names? = some number → second.names? ≠ some number)
    : let bench := ((assemble capacity paces buffers sensors).run actions).2
      let (firstAnswer, afterFirst) := bench.step first
      let (secondAnswer, afterSecond) := bench.step second
      (afterFirst.step second).1 = secondAnswer
      ∧ (afterSecond.step first).1 = firstAnswer
      ∧ (afterFirst.step second).2.Unmoved (afterSecond.step first).2
      ∧ bench.master.Spares id area afterFirst.master := by
  have inhabited := (inhabited_assemble capacity paces buffers sensors).run actions
  generalize ((assemble capacity paces buffers sensors).run actions).2 = bench
    at firstWithin secondWithin inhabited ⊢
  have keeps := firstWithin.keepsTo inhabited
  have backwards (number : Nat) (named : second.names? = some number)
      : first.names? ≠ some number :=
    fun same => names number same named
  obtain ⟨secondSame, firstSame, last⟩ :=
    keeps.commute (secondWithin.keepsTo inhabited) distinct apart
  have inOrder := Within.step_after inhabited firstWithin secondWithin distinct names
  have inReverse := Within.step_after inhabited secondWithin firstWithin distinct.symm backwards
  dsimp only
  refine ⟨?_, ?_, ⟨?_, ?_, fun number => ?_⟩, ?_⟩
  · rw [inOrder, secondWithin.step, answer_enact, answer_enact, secondSame]
  · rw [inReverse, firstWithin.step, answer_enact, answer_enact, firstSame]
  · rw [inOrder, inReverse, master_enact, master_enact, last]
  · rw [inOrder, inReverse, sensors_enact, sensors_enact, firstWithin.step, secondWithin.step,
      sensors_enact, sensors_enact]
  · rw [inOrder, inReverse, task?_enact, task?_enact, secondSame, firstSame, firstWithin.step,
      secondWithin.step, task?_enact, task?_enact]
    by_cases own : first.names? = some number
    · simp [own, names number own]
    · simp [own]
  · rw [firstWithin.step, master_enact]
    exact keeps.spares

/-- A completion on the first bus, whose client asks for the next transfer at once, and a byte that
is read on the second bus into the same buffer, past the window of the first.
-/
theorem independent_while_chaining
    : let chained : Request := ⟨.write, ⟨0⟩, ⟨.bits16, 0x0100⟩, ⟨.buffer 0, 0, 2⟩⟩
      let first := Action.complete .i2c1 .rx
      let second := Action.tryTransfer ⟨.read, ⟨1⟩, ⟨.bits8, 0x0D⟩, ⟨.buffer 0, 2, 1⟩⟩
      let bench :=
        ((assemble 2 ⟨some .instant, some .instant, none⟩ [[0, 0, 0]] []).run
          [.register ⟨.i2c1, 0x50, .tell "page" (some chained)⟩, .register ⟨.i2c2, 0x51, .none⟩,
            .tryTransfer ⟨.read, ⟨0⟩, ⟨.bits16, 0x0000⟩, ⟨.buffer 0, 0, 2⟩⟩,
            .deliver .i2c1 [1, 2]]).2
      let (firstAnswer, afterFirst) := bench.step first
      let (secondAnswer, afterSecond) := bench.step second
      (bench.step first).1.notice.isSome = true
      ∧ (afterFirst.step second).1 = secondAnswer
      ∧ (afterSecond.step first).1 = firstAnswer
      ∧ (afterFirst.step second).2.Unmoved (afterSecond.step first).2
      ∧ bench.master.Spares .i2c1 (Window.places ⟨.buffer 0, 0, 2⟩) afterFirst.master := by
  intro chained first second bench
  have known : bench.master.slaves.get? ⟨0⟩ = some ⟨.i2c1, 0x50, .tell "page" (some chained)⟩ :=
    rfl
  have here (slave : Slave) (found : bench.master.slaves.get? ⟨0⟩ = some slave)
      : slave.bus = .i2c1 := by
    obtain rfl := Option.some.inj (known.symm.trans found)
    rfl
  have there (slave : Slave) (found : bench.master.slaves.get? ⟨1⟩ = some slave)
      : slave.bus = .i2c2 := by
    have second : bench.master.slaves.get? ⟨1⟩ = some ⟨.i2c2, 0x51, .none⟩ := rfl
    obtain rfl := Option.some.inj (second.symm.trans found)
    rfl
  have firstWithin : bench.Within .i2c1 (Window.places ⟨.buffer 0, 0, 2⟩) first := by
    refine .complete (fun handle slave held found => ?_)
    have owner : (bench.master.bus .i2c1).owner = some ⟨0⟩ := rfl
    obtain rfl := Option.some.inj (owner.symm.trans held)
    obtain rfl := Option.some.inj (known.symm.trans found)
    refine .call (fun _ _ _ _ _ _ => rfl) (fun _ _ request asked => ?_)
    obtain rfl : request = chained := by simpa using asked
    exact ⟨here, subset_rfl⟩
  have secondWithin : bench.Within .i2c2 (Window.places ⟨.buffer 0, 2, 1⟩) second :=
    .tryTransfer ⟨there, subset_rfl⟩
  have apart
      : Disjoint (Window.places ⟨.buffer 0, 0, 2⟩) (Window.places ⟨.buffer 0, 2, 1⟩) := by
    refine Set.disjoint_left.mpr ?_
    rintro _ ⟨position, -, late, rfl⟩ ⟨other, early, -, same⟩
    obtain ⟨-, rfl⟩ := Place.byte.inj same
    have late : position < 2 := by simpa using late
    have early : 2 ≤ position := early
    omega
  exact ⟨by decide, buses_are_independent _ _ _ _ _ firstWithin secondWithin (by decide) apart
    (fun number named => by simp [first, Action.names?] at named)⟩

end Bench

end TwoWire
