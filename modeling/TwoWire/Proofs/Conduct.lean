import TwoWire.Proofs.Ownership

/-! How interrupts, probes, bring-ups and captures conduct themselves: each of them is a sequence
of events of its own kind.
-/

namespace TwoWire

open Scene
open Magnetometer

-----------------------------------------------------------------------------------------
-- Completion interrupts
-----------------------------------------------------------------------------------------

/-- Whatever a client finds when it is called, it only asks for transfers of this kind. -/
def Reaction.Asks (client : Operation → Prop) : Reaction → Prop
  | .call _ requests =>
    ∀ buses memory, ∀ request ∈ requests buses memory, client (.transfer request)
  | _ => True

/-- The slaves that are given a stream when the client that is told asks for transfers. -/
def Notice.accepted (notice : Notice) : List Handle :=
  notice.asked.flatMap fun asked => asked.1.accepted asked.2

/-- Reading a flag that is not set changes no stream. -/
theorem Peripheral.says_takeCompleted {peripheral : Peripheral} {stream : Stream}
    (unset : peripheral.completed stream = false)
    : peripheral.Says [] (peripheral.takeCompleted stream).2 := by
  have same : peripheral.setCompleted stream false = peripheral := by
    rw [← unset]
    cases stream <;> rfl
  have taken := peripheral.leaves_takeCompleted stream
  rw [same] at taken
  exact taken

namespace Master

variable {master : Master} {bus : BusId} {stream : Stream} {peripheral : Peripheral}
  {handle : Handle} {slave : Slave}

/-- The master after the frame of a completed stream was closed and its bus made idle. -/
def freed (master : Master) (bus : BusId) (peripheral : Peripheral) (stream : Stream)
    : Master :=
  master.setBus bus
    { master.bus bus with
      active := .empty
      peripheral := some ((peripheral.takeCompleted stream).2.closeFrame stream) }

theorem complete_of_unset (here : master.peripheral? bus = some peripheral)
    (unset : peripheral.completed stream = false)
    : master.complete bus stream
      = (none, master.setPeripheral bus (peripheral.takeCompleted stream).2) := by
  simp [complete, here, Peripheral.takeCompleted, unset]

/-- With its flag set a completion frees the bus and then tells the slave that owned it. -/
theorem complete_of_set (here : master.peripheral? bus = some peripheral)
    (set : peripheral.completed stream = true) (held : (master.bus bus).owner = some handle)
    (found : master.slaves.get? handle = some slave)
    : master.complete bus stream
      = ((master.freed bus peripheral stream).notify handle slave).map some id := by
  have owner : (master.bus bus).active.load = some handle := held
  have known (state : Bus) : (master.setBus bus state).slaves.get? handle = some slave := found
  simp only [complete, freed, here, Peripheral.takeCompleted, set, if_true, Bus.release,
    HandleCell.take, owner, known]

/-- What the slave is told: its own handle and bus, and that the bus is idle. -/
theorem notify_freed (master : Master) (peripheral : Peripheral) (stream : Stream)
    (handle : Handle) (home : slave.bus = bus)
    : let (notice, _) := (master.freed bus peripheral stream).notify handle slave
      notice.handle = handle ∧ notice.bus = bus ∧ notice.busy = false := by
  have idle : ((master.freed bus peripheral stream).bus bus).isBusy = false := by
    simp [freed, Master.bus, setBus, Bus.isBusy, HandleCell.isSome, HandleCell.empty]
  subst home
  simp only [notify, idle]
  cases slave.reaction <;> exact ⟨rfl, rfl, rfl⟩

/-- Telling a slave moves its ring on, or serves what it asks for. -/
theorem serves_notify {client : Operation → Prop} (asks : slave.reaction.Asks client)
    : Serves .client client
        { master with
          memory := match slave.reaction with
            | .advanceRing ring => master.memory.advanceRing ring
            | _ => master.memory }
        (master.notify handle slave).1.accepted (master.notify handle slave).2 := by
  cases reaction : slave.reaction with
  | none => simpa [notify, reaction, Notice.accepted] using .done
  | advanceRing ring => simpa [notify, reaction, Notice.accepted] using .done
  | call tag requests =>
      rw [reaction] at asks
      simpa [notify, reaction, Notice.accepted] using
        master.serves_tryTransfers (asks master.buses master.memory)

end Master

/-- A completion interrupt reads a flag that is not set, or it closes one transaction; what the
slave asks for when it is told is served after that.
-/
theorem Scene.Coherent.complete {scene : Scene} (coherent : scene.Coherent)
    {client : Operation → Prop}
    (asks
      : ∀ {handle slave},
          scene.master.slaves.get? handle = some slave → slave.reaction.Asks client)
    (bus : BusId) (stream : Stream)
    : let (notice, next) := scene.master.complete bus stream
      ∃ events,
        scene.Moves events ⟨next, scene.trials⟩
        ∧ events.filterMap Event.told? = (notice.map fun n => (n.bus, n.handle)).toList
        ∧ events.flatMap Event.streams = notice.toList.flatMap Notice.accepted
        ∧ ∀ event ∈ events,
            event = .touch bus
            ∨ (∃ slave handle, event = .close bus slave handle)
            ∨ ∃ slave operation, event = .serve .client slave operation ∧ client operation := by
  obtain ⟨master, trials⟩ := scene
  cases here : master.peripheral? bus with
  | none =>
      simp only [Master.complete, here]
      exact ⟨[], .nil, rfl, rfl, by simp⟩
  | some peripheral =>
      cases flag : peripheral.completed stream with
      | false =>
          simp only [Master.complete_of_unset here flag]
          refine ⟨_, .single (.ofTurn (.touch here (Peripheral.says_takeCompleted flag)) rfl),
            rfl, rfl, ?_⟩
          simp
      | true =>
          obtain ⟨-, kind, handle, register, window, slave, rfl, held, found, home, -⟩ :=
            (coherent.buses bus).landed_of_completed here flag
          obtain ⟨handleTold, busTold, -⟩ :=
            master.notify_freed peripheral kind.stream handle home
          have closed : Move ⟨master, trials⟩ (.close bus slave handle) _ :=
            .ofTurn (.close found held here flag) rfl
          obtain ⟨events, moves, streams, all⟩ := (Master.serves_notify (asks found)).moves
            (by simp) trials
          rw [Master.complete_of_set here flag held found]
          have silent := Master.Serves.untold all
          refine ⟨_, .cons closed moves, ?_, ?_, ?_⟩
          · simp [Event.told?, silent, handleTold, busTold]
          · rw [List.flatMap_cons, streams]
            exact (List.append_nil _).symm
          · intro event member
            rcases List.mem_cons.mp member with rfl | later
            · exact .inr (.inl ⟨slave, handle, rfl⟩)
            · exact .inr (.inr (all event later))

-----------------------------------------------------------------------------------------
-- Standby probes
-----------------------------------------------------------------------------------------

namespace Scene

/-- A probe with this slave owns its bus and pauses with some trials left. -/
def Suspends (scene : Scene) (slave : Slave) (paused : Retry.Paused) : Prop :=
  scene.trials.get slave.bus = some paused.trials
  ∧ ∃ handle,
      scene.master.slaves.get? handle = some slave
      ∧ (scene.master.bus slave.bus).owner = some handle

/-- What a standby probe that owned the bus of its slave did with it. -/
structure Probes (scene : Scene) (slave : Slave)
    (outcome : Poll Standby (Except MasterError Unit)) (events : List Event) (next : Scene)
    : Prop where
  moves : scene.Moves events next
  own
    : ∀ event ∈ events,
        (∃ handle, event = .claim slave handle)
        ∨ event = .pause slave
        ∨ event = .conclude slave
  waits
    : ∀ standby, outcome = .pending standby
      → ∃ paused, standby = .pausing slave paused ∧ next.Suspends slave paused
  ends : ∀ answer, outcome = .ready answer → next.trials.get slave.bus = none

/-- The trials of a probe that owns its bus are one event: it pauses or it gives the bus back. -/
theorem probes_of_tried (scene : Scene) {slave : Slave} {handle : Handle} {trials : Nat}
    {peripheral after : Peripheral} {outcome : Poll Retry.Paused Bool}
    (found : scene.master.slaves.get? handle = some slave)
    (held : (scene.master.bus slave.bus).owner = some handle)
    (budget : scene.trials.get slave.bus = some trials)
    (here : scene.master.peripheral? slave.bus = some peripheral)
    (tried : peripheral.Tried slave.address trials outcome after) (delay : Delay)
    : let (settled, _, next) := scene.master.settleStandby slave (outcome, after, delay)
      ∃ events left, scene.Probes slave settled events ⟨next, left⟩ := by
  cases outcome with
  | pending paused =>
      have move : scene.Move (.pause slave) _ :=
        .turn (.pause found rfl held budget here tried) rfl
      refine ⟨_, _, .single move, by simp, ?_, by simp⟩
      intro standby given
      cases given
      exact ⟨paused, rfl, trials_change_self, handle, found,
        (congrArg Bus.owner bus_change_self).trans held⟩
  | ready acknowledged =>
      have move : scene.Move (.conclude slave) _ :=
        .turn (.conclude found rfl held budget here tried) rfl
      refine ⟨_, _, .single move, by simp, by simp, ?_⟩
      intro answer given
      cases given
      exact trials_change_self

/-- A probe that finds its bus idle claims it and makes its first trials; otherwise it waits. -/
theorem Coherent.claimStandby {scene : Scene} {handle : Handle} {slave : Slave}
    (coherent : scene.Coherent) (found : scene.master.slaves.get? handle = some slave)
    (delay : Delay)
    : let (outcome, spent, next) := scene.master.claimStandby handle slave delay
      (outcome, spent, next) = (.pending (.claiming handle slave), delay, scene.master)
      ∨ (scene.master.bus slave.bus).owner = none
        ∧ ∃ events left, scene.Probes slave outcome events ⟨next, left⟩ := by
  obtain ⟨-, peripheral, here⟩ := coherent.homes found
  cases claimed : (scene.master.bus slave.bus).claim (.probe handle) with
  | none =>
      have busy : scene.master.claimStandby handle slave delay
          = (.pending (.claiming handle slave), delay, scene.master) := by
        simp only [Master.claimStandby, claimed]
      exact .inl busy
  | some bus =>
      obtain ⟨free, same⟩ := Bus.eq_of_claim claimed
      have move
          : scene.Move (.claim slave handle)
              (scene.change slave.bus bus (some Standby.trials) scene.master.memory) :=
        same ▸ .turn (.claim found rfl free here) rfl
      have held : bus.owner = some handle :=
        same ▸ HandleCell.load_store_some (coherent.fits.code_ne_vacant found)
      have present : bus.peripheral = some peripheral := by
        rw [same]
        exact here
      have tried := Peripheral.tried_run Standby.interval slave.address Standby.trials
        peripheral delay
      have begun : scene.master.claimStandby handle slave delay
          = (scene.master.setBus slave.bus bus).settleStandby slave
              (Retry.run Standby.interval (·.probe slave.address) Standby.trials peripheral
                delay) := by
        simp only [Master.claimStandby, claimed, here]
      rw [begun]
      generalize Retry.run Standby.interval (·.probe slave.address) Standby.trials peripheral
        delay = tries at tried ⊢
      obtain ⟨outcome, after, later⟩ := tries
      obtain ⟨events, left, moves, own, waits, ends⟩ :=
        (scene.change slave.bus bus (some Standby.trials) scene.master.memory).probes_of_tried
          found ((congrArg Bus.owner bus_change_self).trans held) trials_change_self
          ((congrArg Bus.peripheral bus_change_self).trans present) tried later
      refine .inr ⟨free, _, left, .cons move moves, ?_, waits, ends⟩
      intro event member
      rcases List.mem_cons.mp member with rfl | earlier
      · exact .inl ⟨handle, rfl⟩
      · exact own event earlier

/-- A probe that pauses goes on with the trials that it has left. -/
theorem Coherent.resumeStandby {scene : Scene} {slave : Slave} {paused : Retry.Paused}
    (coherent : scene.Coherent) (suspended : scene.Suspends slave paused) (delay : Delay)
    : let (outcome, _, next) := scene.master.resumeStandby (.pausing slave paused) delay
      ∃ events left, scene.Probes slave outcome events ⟨next, left⟩ := by
  obtain ⟨budget, handle, found, held⟩ := suspended
  obtain ⟨-, peripheral, here⟩ := coherent.homes found
  have buses := coherent.buses slave.bus
  rw [budget] at buses
  have left := (buses.quiet_of_trials here).2.1
  simp only [Master.resumeStandby, here]
  exact scene.probes_of_tried found held budget here
    (Peripheral.tried_resume Standby.interval slave.address left peripheral delay) _

end Scene

end TwoWire
