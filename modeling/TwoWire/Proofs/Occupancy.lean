import TwoWire.Proofs.Registry

/-! Who can own a bus, whatever is done: a slave of the table, and one that lives on that bus.

A bus is only ever given to a transaction whose slave was looked up for it. The table only grows,
so the handle that was stored goes on standing for that slave.
-/

namespace TwoWire

open Magnetometer

/-- A cell into which a handle was stored holds no other handle. -/
theorem HandleCell.eq_of_load_store {handle other : Handle}
    (loaded : (store (some handle)).load = some other)
    : other = handle := by
  unfold load at loaded
  split at loaded
  · simp at loaded
  · exact (Option.some.inj loaded).symm

-----------------------------------------------------------------------------------------
-- Masters that give buses to slaves that live there
-----------------------------------------------------------------------------------------

namespace Master

/-- The handle stands for a slave of this bus. -/
def Lodges (master : Master) (id : BusId) (handle : Handle) : Prop :=
  ∃ slave, master.slaves.get? handle = some slave ∧ slave.bus = id

/-- The slaves stay, and whoever owns a bus owned it before or lives there. -/
structure Houses (master next : Master) : Prop where
  slaves : next.slaves = master.slaves
  owners
    : ∀ id handle, (next.bus id).owner = some handle
      → (master.bus id).owner = some handle ∨ master.Lodges id handle

variable {master middle next : Master} {origin : Origin} {allowed : Operation → Prop}
  {handles : List Handle} {slave : Slave} {handle : Handle} {id : BusId}

theorem Houses.refl (master : Master)
    : master.Houses master :=
  ⟨rfl, fun _ _ => .inl⟩

theorem Houses.trans (head : master.Houses middle) (tail : middle.Houses next)
    : master.Houses next where
  slaves := tail.slaves.trans head.slaves
  owners id handle held := by
    rcases tail.owners id handle held with before | ⟨slave, found, home⟩
    · exact head.owners id handle before
    · exact .inr ⟨slave, head.slaves ▸ found, home⟩

/-- A bus can be replaced by one whose owner was there before or lives there. -/
theorem houses_setBus {bus : Bus}
    (owned
      : ∀ handle, bus.owner = some handle
        → (master.bus id).owner = some handle ∨ master.Lodges id handle)
    : master.Houses (master.setBus id bus) where
  slaves := rfl
  owners other handle held := by
    by_cases here : other = id
    · subst here
      exact owned handle (by simpa [Master.bus, setBus] using held)
    · exact .inl (by simpa [Master.bus, setBus, here] using held)

/-- Whatever becomes of the memory, no bus is given away by that. -/
theorem Houses.remember (houses : master.Houses next) (memory : Memory)
    : master.Houses { next with memory } :=
  ⟨houses.slaves, houses.owners⟩

/-- A bus that was made idle has no owner to account for. -/
theorem houses_idle {bus : Bus} (idle : bus.active = .empty)
    : master.Houses (master.setBus id bus) :=
  houses_setBus (fun handle held => by simp [Bus.owner, idle] at held)

theorem houses_setPeripheral (master : Master) (id : BusId) (peripheral : Peripheral)
    : master.Houses (master.setPeripheral id peripheral) :=
  houses_setBus (fun _ => .inl)

/-- An operation whose slave is the one of its handle leaves its bus to that slave or idle. -/
theorem houses_attempt {operation : Operation} {reply : Reply}
    (found : master.slaves.get? operation.handle = some slave)
    (accepted : master.attempt slave operation = some (reply, next))
    : master.Houses next := by
  obtain ⟨peripheral, after, memory, -, -, -, rfl⟩ := eq_of_attempt accepted
  refine Houses.remember (houses_setBus (fun handle held => .inr ⟨slave, ?_, rfl⟩)) memory
  simp only [Bus.owner] at held
  split at held
  · obtain rfl := HandleCell.eq_of_load_store held
    exact found
  · simp at held

/-- Operations are served one after the other, by induction over them. -/
theorem Serves.houses (serves : Serves origin allowed master handles next)
    : master.Houses next := by
  induction serves with
  | done => exact .refl _
  | next _ found accepted _ ih => exact (houses_attempt found accepted).trans ih

theorem houses_tryTransfer (master : Master) (request : Request)
    : master.Houses (master.tryTransfer request).2 := by
  have serves
      : master.Serves .client (fun _ => True) (request.accepted (master.tryTransfer request).1)
          (master.tryTransfer request).2 :=
    master.serves_tryTransfer True.intro
  exact serves.houses

theorem houses_tryTransfers (master : Master) (requests : List Request)
    : master.Houses (master.tryTransfers requests).2 := by
  induction requests generalizing master with
  | nil => exact .refl master
  | cons request rest ih => exact (master.houses_tryTransfer request).trans (ih _)

theorem houses_start (master : Master) (operation : Operation)
    : master.Houses (master.start operation).2 := by
  have settles
      : master.Settles .client (fun _ => True) operation (master.start operation) :=
    master.settles_start True.intro
  exact settles.serves.houses

theorem houses_resume {claiming : Claiming} (known : master.Knows claiming)
    : master.Houses (master.resume claiming).2 := by
  have settles
      : master.Settles .client (fun _ => True) claiming.operation (master.resume claiming) :=
    settles_resume True.intro known
  exact settles.serves.houses

theorem houses_notify (master : Master) (handle : Handle) (slave : Slave)
    : master.Houses (master.notify handle slave).2 := by
  unfold notify
  cases slave.reaction with
  | none | advanceRing => exact ⟨rfl, fun _ _ => .inl⟩
  | call tag requests =>
      exact master.houses_tryTransfers _

/-- A completion makes its bus idle before anybody is told. -/
theorem houses_complete (master : Master) (id : BusId) (stream : Stream)
    : master.Houses (master.complete id stream).2 := by
  unfold complete
  cases here : master.peripheral? id with
  | none => exact .refl master
  | some peripheral =>
      dsimp only
      split
      · have freed
            : master.Houses (master.setBus id
                { master.bus id with
                  peripheral := some ((peripheral.takeCompleted stream).2.closeFrame stream)
                  }.release.2) :=
          houses_idle rfl
        split
        · exact freed
        · split
          · exact freed
          · exact freed.trans (houses_notify _ _ _)
      · exact master.houses_setPeripheral id _

-----------------------------------------------------------------------------------------
-- Standby probes
-----------------------------------------------------------------------------------------

theorem houses_settleStandby (master : Master) (slave : Slave)
    (progress : Poll Retry.Paused Bool × Peripheral × Delay)
    : master.Houses (master.settleStandby slave progress).2.2 := by
  obtain ⟨outcome, after, delay⟩ := progress
  cases outcome with
  | pending paused => exact master.houses_setPeripheral slave.bus after
  | ready acknowledged => exact houses_idle rfl

theorem houses_claimStandby (found : master.slaves.get? handle = some slave) (delay : Delay)
    : master.Houses (master.claimStandby handle slave delay).2.2 := by
  unfold claimStandby
  split
  · rename_i bus peripheral claimed here
    obtain ⟨-, rfl⟩ := Bus.eq_of_claim claimed
    refine Houses.trans ?_ (houses_settleStandby _ slave _)
    refine houses_setBus (fun owner held => .inr ⟨slave, ?_, rfl⟩)
    obtain rfl := HandleCell.eq_of_load_store held
    exact found
  · exact .refl master

theorem houses_startStandby (master : Master) (handle : Handle) (delay : Delay)
    : master.Houses (master.startStandby handle delay).2.2 := by
  unfold startStandby
  cases resolved : master.resolve handle with
  | error cause => exact .refl master
  | ok slave => exact houses_claimStandby (get?_of_resolve resolved).1 delay

/-- Bringing buses up gives none of them away. -/
theorem owner_configureOnce (bus : Bus)
    : bus.configureOnce.owner = bus.owner := by
  unfold Bus.configureOnce
  split
  · rfl
  · split <;> rfl

theorem houses_configureAll (master : Master)
    : master.Houses master.configureAll where
  slaves := rfl
  owners id handle held := by
    refine .inl ?_
    simpa [configureAll, Master.bus, owner_configureOnce] using held

/-- A registration gives no bus away, whether it succeeds or not. -/
theorem owner_register (master : Master) (slave : Slave) (id : BusId)
    : ((master.register slave).2.bus id).owner = (master.bus id).owner := by
  have ready : ((master.setBus slave.bus (master.bus slave.bus).configureOnce).bus id).owner
      = (master.bus id).owner := by
    by_cases here : id = slave.bus
    · subst here
      simp [setBus, Master.bus, owner_configureOnce]
    · simp [setBus, Master.bus, here]
  unfold register
  split
  · rfl
  · split
    · rfl
    · split <;> exact ready

end Master

/-- An edge asks for a transfer or for nothing. -/
theorem Magnetometer.Sensor.houses_dataReady (sensor : Sensor) (master : Master)
    : master.Houses (sensor.dataReady master) := by
  unfold dataReady
  split
  · split
    · exact .refl master
    · exact master.houses_tryTransfer _
  · exact .refl master

-----------------------------------------------------------------------------------------
-- Benches
-----------------------------------------------------------------------------------------

/-- A probe that waits for its bus looked up its slave. -/
def Task.Aware (slaves : SlaveTable) : Task → Prop
  | .standby (.claiming handle slave) _ => slaves.get? handle = some slave
  | _ => True

/-- What a probe looked up stays right in a table that still knows every slave. -/
theorem Task.Aware.mono {task : Task} {slaves more : SlaveTable} (aware : task.Aware slaves)
    (known : ∀ {handle slave}, slaves.get? handle = some slave → more.get? handle = some slave)
    : task.Aware more := by
  match task with
  | .standby (.claiming handle slave) _ => exact known aware
  | .standby (.pausing ..) _ | .operation _ | .bringUp .. => exact True.intro

namespace Bench

/-- Whoever owns a bus lives there, and so does whoever waits for one. -/
structure Inhabited (bench : Bench) : Prop where
  grounded : bench.Grounded
  owners
    : ∀ id handle, (bench.master.bus id).owner = some handle → bench.master.Lodges id handle
  tasks : ∀ entry ∈ bench.tasks, entry.2.Aware bench.master.slaves

/-- An action that registers nothing gives buses to slaves that live there, and a task that is new
knows its slave.
-/
structure Hosts (bench next : Bench) : Prop where
  houses : bench.master.Houses next.master
  tasks : ∀ entry ∈ next.tasks, entry ∈ bench.tasks ∨ entry.2.Aware bench.master.slaves

variable {bench middle next : Bench} {action : Action} {number : Option Nat}

theorem Hosts.refl (bench : Bench)
    : bench.Hosts bench :=
  ⟨.refl _, fun _ => .inl⟩

/-- Making room changes no bus and brings no task. -/
theorem hosts_vacate (bench : Bench) (number : Option Nat) {next : Bench}
    (hosts : (bench.vacate number).Hosts next)
    : bench.Hosts next := by
  obtain ⟨houses, tasks⟩ := hosts
  rw [vacate_master] at houses tasks
  exact ⟨houses, fun entry member => (tasks entry member).imp_left mem_tasks_vacate⟩

theorem hosts_of_houses {master : Master} {sensors : List Sensor}
    (houses : bench.master.Houses master)
    : bench.Hosts { bench with master, sensors } :=
  ⟨houses, fun _ => .inl⟩

theorem hosts_settleOperation
    {progress : Poll Claiming (Except MasterError Reply) × Master}
    (houses : bench.master.Houses progress.2)
    : bench.Hosts (bench.settleOperation number progress).2 where
  houses := by
    rw [master_settleOperation]
    exact houses
  tasks entry member := by
    obtain ⟨outcome, master⟩ := progress
    cases outcome with
    | ready => exact .inl member
    | pending rest =>
        refine (mem_tasks_keep member).imp_right (fun new => ?_)
        rw [new]
        exact True.intro

theorem hosts_settleStandby
    {progress : Poll Standby (Except MasterError Unit) × Delay × Master}
    (houses : bench.master.Houses progress.2.2)
    (aware
      : ∀ rest, progress.1 = .pending rest
        → ∀ delay, (Task.standby rest delay).Aware bench.master.slaves)
    : bench.Hosts (bench.settleStandby number progress).2 where
  houses := by
    rw [master_settleStandby]
    exact houses
  tasks entry member := by
    obtain ⟨outcome, delay, master⟩ := progress
    cases outcome with
    | ready => exact .inl member
    | pending rest =>
        refine (mem_tasks_keep member).imp_right (fun new => ?_)
        rw [new]
        exact aware rest rfl delay

theorem hosts_settleBringUp {index : Nat}
    (progress : Poll BringUp (Except SensorError Unit) × Sensor × Delay × Master)
    (houses : bench.master.Houses progress.2.2.2)
    : bench.Hosts (bench.settleBringUp index number progress).2 where
  houses := by
    rw [master_settleBringUp]
    exact houses
  tasks entry member := by
    obtain ⟨outcome, sensor, delay, master⟩ := progress
    cases outcome with
    | ready => exact .inl member
    | pending rest =>
        refine (mem_tasks_keep member).imp_right (fun new => ?_)
        rw [new]
        exact True.intro

/-- A probe that has to wait for its bus waits with the slave that it looked up. -/
theorem aware_of_settleStandby {slaves : SlaveTable} {master : Master} {slave : Slave}
    {tried : Poll Retry.Paused Bool × Peripheral × Delay} {rest : Standby}
    (waits : (master.settleStandby slave tried).1 = .pending rest) (delay : Delay)
    : (Task.standby rest delay).Aware slaves := by
  obtain ⟨outcome, after, spent⟩ := tried
  cases outcome with
  | pending paused =>
      cases waits
      exact True.intro
  | ready acknowledged => simp [Master.settleStandby] at waits

theorem aware_of_claimStandby {slaves : SlaveTable} {master : Master} {handle : Handle}
    {slave : Slave} {spent : Delay} {rest : Standby} (found : slaves.get? handle = some slave)
    (waits : (master.claimStandby handle slave spent).1 = .pending rest) (delay : Delay)
    : (Task.standby rest delay).Aware slaves := by
  unfold Master.claimStandby at waits
  split at waits
  · exact aware_of_settleStandby waits delay
  · cases waits
    exact found

theorem hosts_resumeStandby {rest : Standby} {delay : Delay}
    (aware : (Task.standby rest delay).Aware bench.master.slaves)
    : bench.Hosts
        (bench.settleStandby number (bench.master.resumeStandby rest delay)).2 := by
  cases rest with
  | claiming handle slave =>
      exact hosts_settleStandby (Master.houses_claimStandby aware delay)
        (fun _ waits => aware_of_claimStandby aware waits)
  | pausing slave paused =>
      simp only [Master.resumeStandby]
      cases here : bench.master.peripheral? slave.bus with
      | none =>
          refine hosts_settleStandby (.refl _) (fun rest waits later => ?_)
          cases waits
          exact True.intro
      | some peripheral =>
          exact hosts_settleStandby (bench.master.houses_settleStandby slave _)
            (fun _ waits => aware_of_settleStandby waits)

theorem hosts_withPeripheral (bench : Bench) (id : BusId)
    (act : Peripheral → Result × Peripheral)
    : bench.Hosts (bench.withPeripheral id act).2 := by
  unfold withPeripheral
  split
  · exact .refl bench
  · exact ⟨bench.master.houses_setPeripheral id _, fun _ => .inl⟩

theorem hosts_deliver (bench : Bench) (id : BusId) (data : List UInt8)
    : bench.Hosts (bench.deliver id data).2 := by
  unfold deliver
  split
  · exact .refl bench
  · split
    · exact .refl bench
    · exact ⟨(bench.master.houses_setPeripheral id _).remember _, fun _ => .inl⟩

/-- A task goes on from where it waited, by cases on what it is. -/
theorem hosts_resume (bench : Bench) {task : Task} (informed : task.Informed bench.master.slaves)
    (aware : task.Aware bench.master.slaves) (number : Nat)
    : bench.Hosts (bench.resume number task).2 := by
  cases task with
  | operation rest => exact hosts_settleOperation (Master.houses_resume informed.1)
  | standby rest delay => exact hosts_resumeStandby aware
  | bringUp index rest delay =>
      simp only [resume]
      cases bench.sensors[index]? with
      | none => exact .refl bench
      | some sensor =>
          have goes : BringUp.Goes bench.master (rest.resume sensor.config delay bench.master) :=
            BringUp.goes_resume informed delay
          exact hosts_settleBringUp _ goes.serves.houses

/-- An action that registers nothing gives buses to slaves that live there, by cases on the
action.
-/
theorem Inhabited.hosts (inhabited : bench.Inhabited) (plain : bench.registrant action = none)
    : bench.Hosts (bench.step action).2 := by
  cases action with
  | register slave => simp [registrant] at plain
  | configureAll => exact hosts_of_houses bench.master.houses_configureAll
  | tryTransfer request => exact hosts_of_houses (bench.master.houses_tryTransfer request)
  | start operation number =>
      refine bench.hosts_vacate number (hosts_settleOperation ?_)
      rw [vacate_master]
      exact bench.master.houses_start operation
  | standby handle schedule number =>
      refine bench.hosts_vacate number (hosts_settleStandby ?_ ?_)
      · rw [vacate_master]
        exact bench.master.houses_startStandby handle _
      · rw [vacate_master]
        intro rest waits
        unfold Master.startStandby at waits
        split at waits
        · simp at waits
        · rename_i resolved
          exact aware_of_claimStandby (Master.get?_of_resolve resolved).1 waits
  | poll number =>
      simp only [step]
      cases polled : bench.task? number with
      | none => exact .refl bench
      | some task =>
          have there : (number, task) ∈ bench.tasks := mem_tasks_of_task? polled
          exact bench.hosts_vacate (some number)
            ((bench.discard number).hosts_resume (inhabited.grounded.tasks _ there)
              (inhabited.tasks _ there) number)
  | drop number => exact ⟨.refl _, fun _ member => .inl (mem_tasks_discard member)⟩
  | complete bus stream => exact hosts_of_houses (bench.master.houses_complete bus stream)
  | advanceRing index =>
      simp only [step]
      cases bench.sensors[index]? with
      | none => exact .refl bench
      | some sensor => exact hosts_of_houses ⟨rfl, fun _ _ => .inl⟩
  | arrange bus | forget bus | drain bus | raise bus | manual bus =>
      exact bench.hosts_withPeripheral bus _
  | deliver bus data => exact bench.hosts_deliver bus data
  | sensor index action =>
      simp only [step]
      cases here : bench.sensors[index]? with
      | none => exact .refl bench
      | some sensor =>
          cases action with
          | register =>
              have known : sensor.state ≠ .uninitialized := by
                simpa [registrant, here] using plain
              simp only [stepSensor, Sensor.register, known, if_false]
              exact hosts_of_houses (.refl _)
          | bringUp table schedule number =>
              have goes := sensor.goes_startBringUp table (.new schedule) bench.master
              refine bench.hosts_vacate number (hosts_settleBringUp _ ?_)
              rw [vacate_master]
              exact goes.serves.houses
          | enable | disable | decode => exact hosts_of_houses (.refl _)
          | dataReady => exact hosts_of_houses (sensor.houses_dataReady bench.master)

/-- Whatever is done, owners live on their buses: an action registers a slave and gives no bus away,
or it leaves the slaves alone.
-/
theorem Inhabited.step (inhabited : bench.Inhabited) (action : Action)
    : (bench.step action).2.Inhabited := by
  have grounded := inhabited.grounded.step action
  cases asked : bench.registrant action with
  | none =>
      obtain ⟨⟨slaves, owners⟩, tasks⟩ := inhabited.hosts asked
      refine ⟨grounded, fun home handle held => ?_, fun entry member => ?_⟩
      · rw [Master.Lodges, slaves]
        exact (owners home handle held).elim (inhabited.owners home handle) id
      · rw [slaves]
        exact (tasks entry member).elim (inhabited.tasks entry) id
  | some slave =>
      obtain ⟨master, tasks⟩ := step_of_registrant asked
      refine ⟨grounded, fun home handle held => ?_, fun entry member => ?_⟩
      · rw [master, Master.owner_register] at held
        obtain ⟨lodger, found, lives⟩ := inhabited.owners home handle held
        rw [master]
        exact ⟨lodger, Master.known_register found, lives⟩
      · rw [tasks] at member
        rw [master]
        exact (inhabited.tasks entry member).mono Master.known_register

/-- Owners live on their buses after every run, by induction over its actions. -/
theorem Inhabited.run (inhabited : bench.Inhabited) (actions : List Action)
    : (bench.run actions).2.Inhabited := by
  induction actions generalizing bench with
  | nil => exact inhabited
  | cons action rest ih => exact ih (inhabited.step action)

theorem inhabited_assemble (capacity : Fin 255) (paces : PerBus (Option Pace))
    (buffers : List (List UInt8)) (sensors : List (Config × Nat))
    : (assemble capacity paces buffers sensors).Inhabited where
  grounded := grounded_assemble capacity paces buffers sensors
  owners id handle held := by
    simp [assemble, Bench.new, Master.new, Master.bus, Bus.new, Bus.owner] at held
  tasks _ member := absurd member List.not_mem_nil

end Bench

end TwoWire
