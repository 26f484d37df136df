import TwoWire.Proofs.BusOwnership

/-! A slave is told exactly once about each of its streams.

The ledger of a bus says which streams it was given. Those that were told about come first, in the
same order, and at most one is outstanding, which is the one that owns the bus.
-/

namespace TwoWire

open Scene
open Magnetometer

/-- The tag of the client that is called about a completion. -/
def Reaction.tag? : Reaction → Option String
  | .call tag _ => some tag
  | .none | .advanceRing _ => Option.none

namespace Bus

/-- The slaves of the streams that a bus was given, in their order. -/
def streamed (bus : Bus) : List Handle :=
  (bus.served.filter Transaction.isStream).map Transaction.handle

/-- The slave whose stream is armed, or has completed and was not handled yet. -/
def outstanding (bus : Bus) : List Handle :=
  match bus.peripheral with
  | none => []
  | some peripheral => if peripheral.streams = .quiet then [] else bus.owner.toList

/-- The slave of the transaction that owns the bus, unless it is a probe. -/
def streaming (bus : Bus) : Option Nat → List Handle
  | none => bus.owner.toList
  | some _ => []

end Bus

/-- The slave that was told about a completion on a bus. -/
def Answer.toldOn (id : BusId) (answer : Answer) : Option Handle :=
  answer.notice.bind fun notice => if notice.bus = id then some notice.handle else none

/-- The slave that an event tells about a completion on a bus. -/
def Scene.Event.toldOn (id : BusId) (event : Scene.Event) : Option Handle :=
  event.told?.bind fun told => if told.1 = id then some told.2 else none

-----------------------------------------------------------------------------------------
-- What is outstanding
-----------------------------------------------------------------------------------------

namespace Bus

variable {slaves : SlaveTable} {id : BusId} {bus next : Bus} {left spare : Option Nat}
  {event : Scene.Event}

/-- A bus that is not idle has a stream outstanding unless a probe owns it. -/
theorem Coherent.outstanding_eq (coherent : bus.Coherent slaves id left)
    : bus.outstanding = bus.streaming left := by
  cases coherent with
  | idle free quiet =>
      unfold outstanding streaming
      cases here : bus.peripheral with
      | none => simp [free]
      | some peripheral => simp [quiet peripheral here, free]
  | running _ _ _ _ here streams =>
      simp [outstanding, streaming, here, streams, StreamState.running, StreamState.quiet]
  | @landed kind _ _ _ _ _ _ _ _ _ here streams =>
      cases kind <;>
        simp [outstanding, streaming, here, streams, StreamState.finished, StreamState.quiet,
          TransferKind.stream]
  | probing _ _ _ _ here quiet => simp [outstanding, streaming, here, quiet]

/-- The streams that a bus is given are those of the operations that are served there. -/
theorem Turn.given (turn : bus.Turn slaves id left event next spare)
    : next.streamed = bus.streamed ++ event.streams := by
  cases turn with
  | prepare | pause | conclude | land | close | touch | forget =>
      exact (List.append_nil _).symm
  | claim => simp [streamed, Scene.Event.streams, Transaction.isStream]
  | serveByte _ _ _ _ single _ _ short =>
      simp [streamed, Scene.Event.streams, single, short]
  | serveStream _ _ _ _ long =>
      simp [streamed, List.filter_cons, Scene.Event.streams, Operation.streams, long,
        Transaction.isStream, Transaction.handle]

/-- Who is given a stream on a bus is a slave that lives there. -/
theorem Turn.known_of_streams (turn : bus.Turn slaves id left event next spare)
    {handle : Handle} (member : handle ∈ event.streams)
    : ∃ slave, slaves.get? handle = some slave ∧ slave.bus = id := by
  cases turn with
  | prepare | claim | pause | conclude | land | close | touch | forget =>
      exact absurd member List.not_mem_nil
  | serveByte _ _ _ _ _ _ _ short =>
      simp [Scene.Event.streams, short] at member
  | serveStream found home _ _ long =>
      obtain rfl : handle = _ := by
        simpa [Scene.Event.streams, Operation.streams, long] using member
      exact ⟨_, found, home⟩

/-- Giving a bus to a stream makes it outstanding, telling its slave ends that, and nothing else
changes it.
-/
theorem Turn.streaming (turn : bus.Turn slaves id left event next spare) (fits : slaves.Fits)
    (coherent : bus.Coherent slaves id left)
    : bus.streaming left ++ event.streams
      = (event.toldOn id).toList ++ next.streaming spare := by
  cases turn with
  | prepare | land | touch | forget => exact List.append_nil _
  | serveByte _ _ free here _ _ _ short =>
      obtain ⟨rfl, -⟩ := coherent.quiet_of_free free here
      have before : bus.streaming none = [] := by simp [Bus.streaming, free]
      rw [before, Scene.Event.streams, short]
      rfl
  | serveStream found _ free here long =>
      obtain ⟨rfl, -⟩ := coherent.quiet_of_free free here
      have held := HandleCell.load_store_some (fits.code_ne_vacant found)
      simp [Bus.streaming, owner, held, Scene.Event.streams, Operation.streams, long,
        Scene.Event.toldOn, Scene.Event.told?, show bus.active.load = none from free]
  | claim _ _ free here =>
      obtain ⟨rfl, -⟩ := coherent.quiet_of_free free here
      simp [Bus.streaming, free, Scene.Event.streams, Scene.Event.toldOn, Scene.Event.told?]
  | pause _ _ _ budget | conclude _ _ _ budget =>
      subst budget
      rfl
  | close found held here flag =>
      obtain ⟨rfl, -⟩ := coherent.landed_of_completed here flag
      have before : bus.active.load = some _ := held
      simp [Bus.streaming, owner, before, Scene.Event.streams, Scene.Event.toldOn,
        Scene.Event.told?]

/-- What happens on one bus is not told on another. -/
theorem toldOn_of_ne {other : BusId} (distinct : id ≠ other)
    (turn : bus.Turn slaves other left event next spare)
    : event.toldOn id = none := by
  cases turn with
  | close => simp [Scene.Event.toldOn, Scene.Event.told?, distinct.symm]
  | prepare | serveByte | serveStream | claim | pause | conclude | land | touch | forget => rfl

end Bus

-----------------------------------------------------------------------------------------
-- Events
-----------------------------------------------------------------------------------------

namespace Scene

variable {scene next : Scene} {event : Event} {events : List Event} {id : BusId}
  {told : List Handle}

/-- The streams of a bus are those that were told about, and then the outstanding one. -/
def Tallies (scene : Scene) (id : BusId) (told : List Handle) : Prop :=
  (scene.master.bus id).streamed
  = told ++ (scene.master.bus id).streaming (scene.trials.get id)

theorem Coherent.tallies (coherent : scene.Coherent) (move : scene.Move event next)
    (tallied : scene.Tallies id told)
    : next.Tallies id (told ++ (event.toldOn id).toList) := by
  cases move with
  | @turn place _ _ _ _ turn _ =>
      by_cases same : id = place
      · subst same
        have passed := turn.streaming coherent.fits (coherent.buses id)
        rw [Tallies] at tallied
        rw [Tallies, bus_change_self, trials_change_self, turn.given, tallied, List.append_assoc,
          passed, List.append_assoc]
      · simpa [Tallies, same, Bus.toldOn_of_ne same turn] using tallied
  | enter | advance =>
      simp only [Event.toldOn, Event.told?, Option.bind_none, Option.toList_none, List.append_nil]
      exact tallied

/-- Events that follow each other add what they tell, by induction over them. -/
theorem Coherent.tallies_moves (coherent : scene.Coherent) (moves : scene.Moves events next)
    (tallied : scene.Tallies id told)
    : next.Tallies id (told ++ events.filterMap (Event.toldOn id)) := by
  induction moves generalizing told with
  | nil => simpa using tallied
  | @cons _ event _ _ _ move _ ih =>
      have later := ih (coherent.move move) (coherent.tallies move tallied)
      cases told : event.toldOn id <;> simpa [List.filterMap_cons, told] using later

/-- A slave is given streams on its own bus only, so they can be counted there. -/
theorem Move.count_streamed (move : scene.Move event next) {slaves : SlaveTable}
    {handle : Handle} {slave : Slave}
    (known
      : ∀ {place other},
          next.master.slaves.get? place = some other → slaves.get? place = some other)
    (found : slaves.get? handle = some slave)
    : (next.master.bus slave.bus).streamed.count handle
      = (scene.master.bus slave.bus).streamed.count handle + event.streams.count handle := by
  cases move with
  | @turn place _ _ _ _ turn _ =>
      by_cases same : slave.bus = place
      · subst same
        rw [bus_change_self, turn.given, List.count_append]
      · have elsewhere : handle ∉ event.streams := by
          intro member
          obtain ⟨other, there, home⟩ := turn.known_of_streams member
          obtain rfl := Option.some.inj (found.symm.trans (known there))
          exact same home
        rw [bus_change_of_ne same, List.count_eq_zero.mpr elsewhere, Nat.add_zero]
  | enter | advance => rfl

theorem Moves.count_streamed (moves : scene.Moves events next) {slaves : SlaveTable}
    {handle : Handle} {slave : Slave}
    (known
      : ∀ {place other},
          next.master.slaves.get? place = some other → slaves.get? place = some other)
    (found : slaves.get? handle = some slave)
    : (next.master.bus slave.bus).streamed.count handle
      = (scene.master.bus slave.bus).streamed.count handle
        + (events.flatMap Event.streams).count handle := by
  induction moves with
  | nil => rfl
  | cons move tail ih =>
      have first := move.count_streamed (fun there => known (tail.known there)) found
      rw [ih known, first, List.flatMap_cons, List.count_append, Nat.add_assoc]

end Scene

-----------------------------------------------------------------------------------------
-- Completion interrupts
-----------------------------------------------------------------------------------------

/-- A notice is right: the transfer-complete flag of the stream was set, and the slave that owned
the bus is called with this bus, which is idle.
-/
structure Notice.Tells (master : Master) (id : BusId) (stream : Stream) (notice : Notice)
    : Prop where
  flag
    : ∃ peripheral,
        master.peripheral? id = some peripheral ∧ peripheral.completed stream = true
  held : (master.bus id).owner = some notice.handle
  bus : notice.bus = id
  idle : notice.busy = false
  called
    : ∃ slave,
        master.slaves.get? notice.handle = some slave
        ∧ slave.bus = id
        ∧ notice.tag = slave.reaction.tag?

theorem Master.tag_notify (master : Master) (handle : Handle) (slave : Slave)
    : (master.notify handle slave).1.tag = slave.reaction.tag? := by
  unfold notify
  cases slave.reaction <;> rfl

/-- A completion interrupt tells the owner of the bus exactly when the flag of its stream is set. -/
theorem Scene.Coherent.notice {scene : Scene} (coherent : scene.Coherent) (id : BusId)
    (stream : Stream)
    : (∃ notice,
        (scene.master.complete id stream).1 = some notice
        ∧ notice.Tells scene.master id stream)
      ∨ (scene.master.complete id stream).1 = none
        ∧ ∀ peripheral, scene.master.peripheral? id = some peripheral
          → peripheral.completed stream = false := by
  cases here : scene.master.peripheral? id with
  | none => exact .inr ⟨by simp [Master.complete, here], by simp⟩
  | some peripheral =>
      cases flag : peripheral.completed stream with
      | false =>
          refine .inr ⟨by rw [Master.complete_of_unset here flag], ?_⟩
          intro other given
          cases given
          exact flag
      | true =>
          obtain ⟨-, _, handle, _, _, slave, -, held, found, home, -⟩ :=
            (coherent.buses id).landed_of_completed here flag
          obtain ⟨handleTold, busTold, idle⟩ :=
            scene.master.notify_freed peripheral stream handle home
          refine .inl ⟨_, congrArg Prod.fst (Master.complete_of_set here flag held found), ?_⟩
          refine ⟨⟨peripheral, here, flag⟩, ?_, busTold, idle, slave, ?_, home, ?_⟩
          · exact held.trans (congrArg some handleTold.symm)
          · exact (congrArg _ handleTold).trans found
          · exact Master.tag_notify _ handle slave

namespace Bench

variable {bench : Bench}

/-- No other action tells a slave about a completion, by cases on the action. -/
theorem notice_eq_none {action : Action} (other : ∀ id stream, action ≠ .complete id stream)
    : (bench.step action).1.notice = none := by
  have tasks (number : Option Nat) (progress : Poll Claiming (Except MasterError Reply) × Master)
      (current : Bench)
      : (current.settleOperation number progress).1.notice = none := by
    obtain ⟨outcome, master⟩ := progress
    cases outcome <;> rfl
  have probes (number : Option Nat)
      (progress : Poll Standby (Except MasterError Unit) × Delay × Master) (current : Bench)
      : (current.settleStandby number progress).1.notice = none := by
    obtain ⟨outcome, delay, master⟩ := progress
    cases outcome <;> rfl
  have bringUps (index : Nat) (number : Option Nat)
      (progress : Poll BringUp (Except SensorError Unit) × Sensor × Delay × Master)
      (current : Bench)
      : (current.settleBringUp index number progress).1.notice = none := by
    obtain ⟨outcome, sensor, delay, master⟩ := progress
    cases outcome <;> rfl
  have touches (id : BusId) (act : Peripheral → Result × Peripheral)
      : (bench.withPeripheral id act).1.notice = none := by
    unfold withPeripheral
    split <;> rfl
  cases action with
  | complete id stream => exact absurd rfl (other id stream)
  | configureAll | register | tryTransfer | drop => rfl
  | start operation number => exact tasks number _ _
  | standby handle schedule number => exact probes number _ _
  | poll number =>
      simp only [step]
      split
      · rfl
      · rename_i task _
        cases task with
        | operation rest => exact tasks _ _ _
        | standby rest delay => exact probes _ _ _
        | bringUp index rest delay =>
            simp only [resume]
            split
            · rfl
            · exact bringUps _ _ _ _
  | advanceRing index =>
      simp only [step]
      split <;> rfl
  | arrange id | forget id | drain id | raise id | manual id => exact touches id _
  | deliver id data =>
      simp only [step, deliver]
      split
      · rfl
      · split <;> rfl
  | sensor index action =>
      simp only [step]
      split
      · rfl
      · cases action with
        | bringUp table schedule number => exact bringUps _ _ _ _
        | register | enable | disable | dataReady | decode => rfl

/-- What an action tells is told by a completion interrupt of an owned bus, which finds the flag of
its stream set; without the flag it tells nothing.
-/
inductive Answers (bench : Bench) : Action → Option Notice → Prop
  | told {id stream notice} (tells : notice.Tells bench.master id stream)
    : Answers bench (.complete id stream) (some notice)
  | ignored {id stream} (unset : ¬ bench.Shows id (.landed stream))
    : Answers bench (.complete id stream) none
  | silent {action : Action} (other : ∀ id stream, action ≠ .complete id stream)
    : Answers bench action none

theorem Tracks.answers {rules : ClientRules} {trials : PerBus (Option Nat)}
    (tracks : bench.Tracks rules trials) (action : Action)
    : bench.Answers action (bench.step action).1.notice := by
  by_cases completes : ∃ id stream, action = .complete id stream
  · obtain ⟨id, stream, rfl⟩ := completes
    have answered : (bench.step (.complete id stream)).1.notice
        = (bench.master.complete id stream).1 := rfl
    rcases tracks.coherent.notice id stream with ⟨notice, same, tells⟩ | ⟨same, unset⟩
    · rw [answered, same]
      exact .told tells
    · rw [answered, same]
      refine .ignored ?_
      intro held
      obtain ⟨peripheral, here, flag⟩ := held
      exact absurd (unset peripheral here) (by simp [flag])
  · have other (id : BusId) (stream : Stream) : action ≠ .complete id stream :=
      fun same => completes ⟨id, stream, same⟩
    rw [notice_eq_none other]
    exact .silent other

/-- The events of an action tell what the action answers. -/
theorem Accounts.toldOn {rules : ClientRules} {trials left : PerBus (Option Nat)}
    {action : Action} {outcome : Answer × Bench} {accepted : List Handle}
    {events : List Scene.Event}
    (accounts : bench.Accounts rules trials action outcome accepted events left) (id : BusId)
    : events.filterMap (Scene.Event.toldOn id) = (outcome.1.toldOn id).toList := by
  have split : events.filterMap (Scene.Event.toldOn id)
      = (events.filterMap Scene.Event.told?).filterMap
          (fun told => if told.1 = id then some told.2 else none) := by
    rw [List.filterMap_filterMap]
    rfl
  rw [split, accounts.told, Answer.toldOn]
  cases outcome.1.notice with
  | none => rfl
  | some notice => by_cases same : notice.bus = id <;> simp [same]

-----------------------------------------------------------------------------------------
-- A transfer that has completed
-----------------------------------------------------------------------------------------

end Bench

namespace Scene

variable {scene next : Scene} {event : Event} {events : List Event} {id : BusId}
  {stream : Stream} {handle : Handle}

/-- The bus of this slave waits for the completion of this stream to be handled. -/
def Waits (scene : Scene) (id : BusId) (stream : Stream) (handle : Handle) : Prop :=
  (scene.master.bus id).owner = some handle
  ∧ ∃ peripheral,
      scene.master.peripheral? id = some peripheral ∧ peripheral.completed stream = true

/-- Until the completion is handled it waits, since no one else can have the bus. -/
theorem Waits.move (waits : scene.Waits id stream handle) (coherent : scene.Coherent)
    (move : scene.Move event next) (untold : event.toldOn id = none)
    : next.Waits id stream handle := by
  obtain ⟨held, peripheral, here, flag⟩ := waits
  have phase := coherent.buses id
  obtain ⟨landed, -, -, -, -, -, -, -, -, -, -, streams⟩ :=
    phase.landed_of_completed here flag
  have stays {bus : Bus} {after : Peripheral} (active : bus.active = (scene.master.bus id).active)
      (there : bus.peripheral = some after) (same : after.streams = peripheral.streams)
      : bus.owner = some handle
        ∧ ∃ peripheral, bus.peripheral = some peripheral
          ∧ peripheral.completed stream = true := by
    refine ⟨by rw [Bus.owner, active]; exact held, after, there, ?_⟩
    rw [← after.completed_streams, same, peripheral.completed_streams]
    exact flag
  cases move with
  | @turn place _ bus left memory turn _ =>
      by_cases same : id = place
      · subst same
        simp only [Waits, Master.peripheral?, bus_change_self]
        cases turn with
        | serveByte _ _ free | serveStream _ _ free | claim _ _ free =>
            exact absurd (free.symm.trans held) (by simp)
        | pause _ _ _ budget | conclude _ _ _ budget =>
            exact absurd (budget.symm.trans landed) (by simp)
        | land present armed =>
            obtain rfl := Option.some.inj (here.symm.trans present)
            have none := congrArg StreamState.armed streams
            exact absurd (none.symm.trans armed) (by simp [StreamState.finished])
        | close => simp [Event.toldOn, Event.told?] at untold
        | prepare present =>
            obtain rfl := Option.some.inj (here.symm.trans present)
            exact stays rfl rfl (Peripheral.says_issue _ _).streams
        | touch present silent =>
            obtain rfl := Option.some.inj (here.symm.trans present)
            exact stays rfl rfl silent.streams
        | forget present =>
            obtain rfl := Option.some.inj (here.symm.trans present)
            exact stays rfl rfl rfl
      · simpa [Waits, Master.peripheral?, same] using
          And.intro held ⟨peripheral, here, flag⟩
  | enter | advance => exact ⟨held, peripheral, here, flag⟩

/-- A completion that waits did so before, or the transfer of its bus has landed just now. -/
theorem Move.waits_cases (move : scene.Move event next) (coherent : scene.Coherent)
    (waits : next.Waits id stream handle)
    : scene.Waits id stream handle
      ∨ ∃ window data,
          event = .land id stream window data
          ∧ (scene.master.bus id).owner = some handle
          ∧ ∃ peripheral,
              scene.master.peripheral? id = some peripheral
              ∧ peripheral.armed = some (stream, window) := by
  obtain ⟨held, peripheral, here, flag⟩ := waits
  have phase := (coherent.move move).buses id
  obtain ⟨landed, -, -, -, -, -, -, -, -, -, -, streams⟩ :=
    phase.landed_of_completed here flag
  -- The flag was up before if the streams have not changed.
  have waited {bus : Bus} {before : Peripheral} (old : bus.owner = some handle)
      (there : bus.peripheral = some before) (same : peripheral.streams = before.streams)
      : bus.owner = some handle
        ∧ ∃ peripheral, bus.peripheral = some peripheral
          ∧ peripheral.completed stream = true := by
    refine ⟨old, before, there, ?_⟩
    rw [← before.completed_streams, ← same, peripheral.completed_streams]
    exact flag
  cases move with
  | @turn place _ bus left memory turn _ =>
      by_cases same : id = place
      · subst same
        simp only [Master.peripheral?, bus_change_self, trials_change_self] at held here landed
        cases turn with
        | serveByte | conclude | close => simp [Bus.owner] at held
        | serveStream _ _ _ _ _ opened =>
            obtain rfl := Option.some.inj here
            have armed := congrArg StreamState.armed (opened.streams.symm.trans streams)
            simp [StreamState.finished] at armed
        | claim => simp at landed
        | pause => simp at landed
        | @land other window data before present armed =>
            obtain rfl := Option.some.inj here
            by_cases equal : other = stream
            · subst equal
              exact .inr ⟨window, data, rfl, held, before, present, armed⟩
            · refine .inl ⟨held, before, present, ?_⟩
              cases other <;> cases stream <;>
                first | contradiction | exact flag
        | prepare present =>
            obtain rfl := Option.some.inj here
            exact .inl (waited held present (Peripheral.says_issue _ _).streams)
        | touch present silent =>
            obtain rfl := Option.some.inj here
            exact .inl (waited held present silent.streams)
        | forget present =>
            obtain rfl := Option.some.inj here
            exact .inl (waited held present rfl)
      · simp only [Master.peripheral?, bus_change_of_ne same] at held here
        exact .inl ⟨held, peripheral, here, flag⟩
  | enter | advance => exact .inl ⟨held, peripheral, here, flag⟩

theorem Waits.moves (waits : scene.Waits id stream handle) (coherent : scene.Coherent)
    (moves : scene.Moves events next) (untold : events.filterMap (Event.toldOn id) = [])
    : next.Waits id stream handle := by
  have silent := List.filterMap_eq_nil_iff.mp untold
  clear untold
  induction moves with
  | nil => exact waits
  | cons move _ ih =>
      exact ih (waits.move coherent move (silent _ List.mem_cons_self)) (coherent.move move)
        (fun event member => silent event (List.mem_cons_of_mem _ member))

end Scene

end TwoWire
