import TwoWire.Proofs.Moves

/-! Who owns a bus, and what shows that it is owned.

A bus is owned exactly while its last transaction goes on: a stream that is armed, a stream that
has completed and was not handled yet, or a probe that has trials left. Each event leads from one
of these phases to another, and none of them can be entered but from an idle bus.
-/

namespace TwoWire

open Scene

-----------------------------------------------------------------------------------------
-- Handles of registered slaves
-----------------------------------------------------------------------------------------

namespace SlaveTable

/-- The entries of the table fit in its places. -/
def Fits (table : SlaveTable) : Prop :=
  table.size ≤ table.capacity

/-- A registered slave never has the handle that stands for no slave, since its place is below
the capacity.
-/
theorem Fits.code_ne_vacant {table : SlaveTable} {handle : Handle} {slave : Slave}
    (fits : table.Fits) (found : table.get? handle = some slave)
    : handle.code ≠ HandleCell.vacant := by
  intro same
  obtain ⟨inside, -⟩ := List.getElem?_eq_some_iff.mp found
  have place : handle.index = 255 := by
    rw [Handle.index, same]
    rfl
  have bound := table.capacity.isLt
  simp only [Fits, size] at fits
  omega

/-- A full table takes no slave. -/
theorem size_ne_capacity_of_insert {table next : SlaveTable} {slave : Slave} {handle : Handle}
    (accepted : table.insert slave = .ok (handle, next))
    : table.size ≠ table.capacity := by
  intro same
  simp only [SlaveTable.insert, same, if_true] at accepted
  split at accepted <;> simp at accepted

theorem Fits.insert {table next : SlaveTable} {slave : Slave} {handle : Handle}
    (fits : table.Fits) (accepted : table.insert slave = .ok (handle, next))
    : next.Fits := by
  have room := size_ne_capacity_of_insert accepted
  obtain ⟨-, rfl⟩ := eq_append_of_insert accepted
  simp only [Fits, size, List.length_append, List.length_cons, List.length_nil] at *
  omega

/-- A handle of the longer table was known before or is the one that was answered. -/
theorem get?_insert_cases {table next : SlaveTable} {slave known : Slave}
    {handle place : Handle} (accepted : table.insert slave = .ok (handle, next))
    (found : next.get? place = some known)
    : table.get? place = some known ∨ (place = handle ∧ known = slave) := by
  obtain ⟨rfl, rfl⟩ := eq_append_of_insert accepted
  simp only [get?, List.getElem?_append] at found ⊢
  split at found
  · exact .inl found
  · rename_i outside
    obtain ⟨inside, same⟩ := List.getElem?_eq_some_iff.mp found
    simp only [List.length_cons, List.length_nil] at inside
    have last : place.index = table.size := by
      simp only [size]
      omega
    refine .inr ⟨?_, by simpa using same.symm⟩
    obtain ⟨code⟩ := place
    simp only [Handle.index] at last
    simp [Handle.ofIndex, ← last]

/-- The handle that is answered to a registration stands for the slave. -/
theorem Fits.get?_of_insert_self {table next : SlaveTable} {slave : Slave} {handle : Handle}
    (fits : table.Fits) (accepted : table.insert slave = .ok (handle, next))
    : next.get? handle = some slave := by
  obtain ⟨rfl, rfl⟩ := eq_append_of_insert accepted
  have bound := table.capacity.isLt
  have small : table.size < 256 := by
    simp only [Fits] at fits
    omega
  have place : (Handle.ofIndex table.size).index = table.size := by
    simp only [Handle.ofIndex, Handle.index]
    exact UInt8.toNat_ofNat_of_lt small
  rw [get?, place]
  simp [size]

end SlaveTable

-----------------------------------------------------------------------------------------
-- The phases of one bus
-----------------------------------------------------------------------------------------

namespace Bus

/-- The phases of a bus, with the trials that are left in each. -/
inductive Coherent (slaves : SlaveTable) (id : BusId) (bus : Bus) : Option Nat → Prop
  | idle (free : bus.owner = none)
    (quiet : ∀ peripheral, bus.peripheral = some peripheral → peripheral.streams = .quiet)
    : Coherent slaves id bus none
  | running {kind handle register window slave peripheral} (held : bus.owner = some handle)
    (found : slaves.get? handle = some slave) (home : slave.bus = id)
    (last : bus.served.getLast? = some (.stream kind handle register window))
    (here : bus.peripheral = some peripheral)
    (streams : peripheral.streams = .running kind.stream window)
    : Coherent slaves id bus none
  | landed {kind handle register window slave peripheral} (held : bus.owner = some handle)
    (found : slaves.get? handle = some slave) (home : slave.bus = id)
    (last : bus.served.getLast? = some (.stream kind handle register window))
    (here : bus.peripheral = some peripheral)
    (streams : peripheral.streams = .finished kind.stream)
    : Coherent slaves id bus none
  | probing {handle slave peripheral left} (held : bus.owner = some handle)
    (found : slaves.get? handle = some slave) (home : slave.bus = id)
    (last : bus.served.getLast? = some (.probe handle))
    (here : bus.peripheral = some peripheral) (quiet : peripheral.streams = .quiet)
    (some : 0 < left) (few : left ≤ Standby.trials)
    : Coherent slaves id bus (.some left)

variable {slaves more : SlaveTable} {id : BusId} {bus next : Bus} {left after : Option Nat}
  {event : Scene.Event}

/-- The phase of a bus depends on its peripheral only through the streams. -/
theorem Coherent.ofStreams {old new : Peripheral} (coherent : bus.Coherent slaves id left)
    (active : next.active = bus.active) (served : next.served = bus.served)
    (here : bus.peripheral = some old) (there : next.peripheral = some new)
    (same : new.streams = old.streams)
    : next.Coherent slaves id left := by
  have owner : next.owner = bus.owner := by rw [owner, owner, active]
  cases coherent with
  | idle free quiet =>
      refine .idle (owner.trans free) ?_
      intro peripheral found
      obtain rfl := Option.some.inj (there.symm.trans found)
      exact same.trans (quiet old here)
  | running held found home last present streams =>
      obtain rfl := Option.some.inj (here.symm.trans present)
      exact .running (owner.trans held) found home (served ▸ last) there (same.trans streams)
  | landed held found home last present streams =>
      obtain rfl := Option.some.inj (here.symm.trans present)
      exact .landed (owner.trans held) found home (served ▸ last) there (same.trans streams)
  | probing held found home last present quiet some few =>
      obtain rfl := Option.some.inj (here.symm.trans present)
      exact .probing (owner.trans held) found home (served ▸ last) there (same.trans quiet)
        some few

/-- A longer table still knows the owner of the bus. -/
theorem Coherent.mono (coherent : bus.Coherent slaves id left)
    (known : ∀ {handle slave}, slaves.get? handle = some slave → more.get? handle = some slave)
    : bus.Coherent more id left := by
  cases coherent with
  | idle free quiet => exact .idle free quiet
  | running held found home last here streams =>
      exact .running held (known found) home last here streams
  | landed held found home last here streams =>
      exact .landed held (known found) home last here streams
  | probing held found home last here quiet some few =>
      exact .probing held (known found) home last here quiet some few

/-- Only an idle bus has no owner. -/
theorem Coherent.quiet_of_free {peripheral : Peripheral}
    (coherent : bus.Coherent slaves id left) (free : bus.owner = none)
    (here : bus.peripheral = some peripheral)
    : left = none ∧ peripheral.streams = .quiet := by
  cases coherent with
  | idle _ quiet => exact ⟨rfl, quiet peripheral here⟩
  | running held | landed held | probing held => simp [held] at free

/-- The owner of a bus is a registered slave that lives there, and the last transaction is with
it.
-/
theorem Coherent.owner_known {handle : Handle} (coherent : bus.Coherent slaves id left)
    (held : bus.owner = some handle)
    : ∃ slave transaction,
        slaves.get? handle = some slave
        ∧ slave.bus = id
        ∧ bus.served.getLast? = some transaction
        ∧ transaction.handle = handle := by
  cases coherent with
  | idle free => simp [free] at held
  | running own found home last | landed own found home last | probing own found home last =>
      obtain rfl := Option.some.inj (own.symm.trans held)
      exact ⟨_, _, found, home, last, rfl⟩

/-- A bus with trials left belongs to a probe, whose streams are quiet. -/
theorem Coherent.quiet_of_trials {trials : Nat} {peripheral : Peripheral}
    (coherent : bus.Coherent slaves id (some trials)) (here : bus.peripheral = some peripheral)
    : peripheral.streams = .quiet ∧ 0 < trials ∧ trials ≤ Standby.trials
      ∧ ∃ handle, bus.owner = some handle ∧ bus.served.getLast? = some (.probe handle) := by
  cases coherent with
  | probing held found home last present quiet some few =>
      obtain rfl := Option.some.inj (here.symm.trans present)
      exact ⟨quiet, some, few, _, held, last⟩

/-- A transfer can only be armed by the transaction that owns the bus. -/
theorem Coherent.running_of_armed {peripheral : Peripheral} {stream : Stream}
    {window : Window} (coherent : bus.Coherent slaves id left)
    (here : bus.peripheral = some peripheral) (armed : peripheral.armed = some (stream, window))
    : left = none
      ∧ ∃ kind handle register slave,
          kind.stream = stream
          ∧ bus.owner = some handle
          ∧ slaves.get? handle = some slave
          ∧ slave.bus = id
          ∧ bus.served.getLast? = some (.stream kind handle register window)
          ∧ peripheral.streams = .running stream window := by
  have shown : peripheral.streams.armed = some (stream, window) := armed
  cases coherent with
  | idle _ quiet => simp [quiet peripheral here, StreamState.quiet] at shown
  | running held found home last present streams =>
      obtain rfl := Option.some.inj (here.symm.trans present)
      simp only [streams, StreamState.running, Option.some.injEq, Prod.mk.injEq] at shown
      obtain ⟨rfl, rfl⟩ := shown
      exact ⟨rfl, _, _, _, _, rfl, held, found, home, last, streams⟩
  | landed _ _ _ _ present streams =>
      obtain rfl := Option.some.inj (here.symm.trans present)
      simp [streams, StreamState.finished] at shown
  | probing _ _ _ _ present quiet =>
      obtain rfl := Option.some.inj (here.symm.trans present)
      simp [quiet, StreamState.quiet] at shown

/-- A transfer-complete flag is only set for the transaction that owns the bus. -/
theorem Coherent.landed_of_completed {peripheral : Peripheral} {stream : Stream}
    (coherent : bus.Coherent slaves id left) (here : bus.peripheral = some peripheral)
    (flag : peripheral.completed stream = true)
    : left = none
      ∧ ∃ kind handle register window slave,
          kind.stream = stream
          ∧ bus.owner = some handle
          ∧ slaves.get? handle = some slave
          ∧ slave.bus = id
          ∧ bus.served.getLast? = some (.stream kind handle register window)
          ∧ peripheral.streams = .finished stream := by
  have shown := (peripheral.completed_streams stream).trans flag
  cases coherent with
  | idle _ quiet =>
      rw [quiet peripheral here] at shown
      cases stream <;> simp [StreamState.quiet, StreamState.completed] at shown
  | @running kind _ _ _ _ _ _ _ _ _ present streams =>
      obtain rfl := Option.some.inj (here.symm.trans present)
      cases stream <;> simp [streams, StreamState.running, StreamState.completed] at shown
  | @landed kind _ _ _ _ _ held found home last present streams =>
      obtain rfl := Option.some.inj (here.symm.trans present)
      have same : kind.stream = stream := by
        cases kind <;> cases stream <;>
          simp [streams, StreamState.finished, StreamState.completed, TransferKind.stream]
            at shown ⊢
      exact ⟨rfl, _, _, _, _, _, same, held, found, home, last, same ▸ streams⟩
  | probing _ _ _ _ present quiet =>
      obtain rfl := Option.some.inj (here.symm.trans present)
      cases stream <;> simp [quiet, StreamState.quiet, StreamState.completed] at shown

/-- At most one transfer-complete flag is set at a time. -/
theorem Coherent.completed_unique {peripheral : Peripheral} {stream other : Stream}
    (coherent : bus.Coherent slaves id left) (here : bus.peripheral = some peripheral)
    (flag : peripheral.completed stream = true) (second : peripheral.completed other = true)
    : stream = other := by
  obtain ⟨-, -, -, -, -, -, -, -, -, -, -, streams⟩ := coherent.landed_of_completed here flag
  have seen := (peripheral.completed_streams other).trans second
  rw [streams, StreamState.completed_finished] at seen
  exact of_decide_eq_true seen

/-- Every event leads from one phase to another, by cases on what it does to the bus. Each case
needs one phase only, which the premises of the event single out.
-/
theorem Turn.coherent (turn : bus.Turn slaves id left event next after) (fits : slaves.Fits)
    (coherent : bus.Coherent slaves id left)
    : next.Coherent slaves id after := by
  cases turn with
  | prepare here new =>
      exact coherent.ofStreams rfl rfl here rfl (Peripheral.says_issue _ _).streams
  | serveByte found home free here single shape said =>
      obtain ⟨rfl, quiet⟩ := coherent.quiet_of_free free here
      refine .idle rfl ?_
      intro peripheral given
      cases given
      exact said.streams.trans quiet
  | serveStream found home free here long opened =>
      obtain ⟨rfl, quiet⟩ := coherent.quiet_of_free free here
      refine .running (HandleCell.load_store_some (fits.code_ne_vacant found)) found home
        List.getLast?_concat rfl ?_
      rw [opened.streams, quiet]
      rfl
  | claim found home free here =>
      have quiet := (coherent.quiet_of_free free here).2
      exact .probing (HandleCell.load_store_some (fits.code_ne_vacant found)) found home
        List.getLast?_concat here quiet (by decide) (Nat.le_refl _)
  | @pause _ handle _ _ _ _ found home held budget here tried =>
      subst budget
      obtain ⟨quiet, -, few, owner, held', last⟩ := coherent.quiet_of_trials here
      obtain rfl := Option.some.inj (held.symm.trans held')
      cases tried with
      | paused some fewer said =>
          exact .probing held found home last rfl (said.streams.trans quiet) some
            (Nat.le_trans fewer few)
  | conclude found home held budget here tried =>
      subst budget
      obtain ⟨quiet, -⟩ := coherent.quiet_of_trials here
      refine .idle rfl ?_
      intro peripheral given
      cases given
      cases tried with
      | acknowledged _ said => exact said.streams.trans quiet
      | exhausted said =>
          exact (Peripheral.says_issue _ _).streams.trans (said.streams.trans quiet)
  | @land stream window data peripheral here armed =>
      obtain ⟨rfl, kind, handle, register, slave, rfl, held, found, home, last, streams⟩ :=
        coherent.running_of_armed here armed
      refine .landed held found home last rfl ?_
      have flags : peripheral.txComplete = false ∧ peripheral.rxComplete = false := by
        simpa [Peripheral.streams, StreamState.running] using And.right
          ((StreamState.mk.injEq ..).mp streams)
      cases kind <;>
        simp [Peripheral.setCompleted, Peripheral.streams, StreamState.finished,
          TransferKind.stream, flags]
  | @close kind slave handle peripheral found held here flag =>
      obtain ⟨rfl, -, -, -, -, -, -, -, -, -, -, streams⟩ :=
        coherent.landed_of_completed here flag
      refine .idle rfl ?_
      intro current given
      cases given
      rw [(Peripheral.says_closeFrame _ kind).streams]
      have armed : peripheral.armed = none := congrArg StreamState.armed streams
      have tx := congrArg StreamState.txComplete streams
      have rx := congrArg StreamState.rxComplete streams
      cases kind <;>
        simp_all [Peripheral.takeCompleted, Peripheral.setCompleted, Peripheral.observe,
          Peripheral.streams, StreamState.finished, StreamState.quiet, TransferKind.stream]
  | touch here silent => exact coherent.ofStreams rfl rfl here rfl silent.streams
  | forget here => exact coherent.ofStreams rfl rfl here rfl rfl

/-- No event takes away a peripheral or undoes that it was brought up. -/
theorem Turn.keepsPeripheral (turn : bus.Turn slaves id left event next after)
    : (bus.configured = true → next.configured = true)
      ∧ ∀ old, bus.peripheral = some old → ∃ new, next.peripheral = some new := by
  cases turn with
  | prepare => exact ⟨fun _ => rfl, fun _ _ => ⟨_, rfl⟩⟩
  | claim _ _ _ here => exact ⟨fun ready => ready, fun _ _ => ⟨_, here⟩⟩
  | serveByte | serveStream | pause | conclude | land | close | touch | forget =>
      exact ⟨fun ready => ready, fun _ _ => ⟨_, rfl⟩⟩

/-- What is new in the ledger of a bus is with a slave that lives there. -/
theorem Turn.mem_served (turn : bus.Turn slaves id left event next after)
    {transaction : Transaction} (member : transaction ∈ next.served)
    : transaction ∈ bus.served
      ∨ ∃ slave, slaves.get? transaction.handle = some slave ∧ slave.bus = id := by
  cases turn with
  | serveByte found home | serveStream found home | claim found home =>
      rcases List.mem_append.mp member with old | new
      · exact .inl old
      · obtain rfl := List.mem_singleton.mp new
        exact .inr ⟨_, found, home⟩
  | prepare | pause | conclude | land | close | touch | forget => exact .inl member

end Bus

-----------------------------------------------------------------------------------------
-- All buses of a master
-----------------------------------------------------------------------------------------

namespace Scene

/-- Every bus is in one of its phases, and every slave lives on a bus that was brought up. -/
structure Coherent (scene : Scene) : Prop where
  buses
    : ∀ id, (scene.master.bus id).Coherent scene.master.slaves id (scene.trials.get id)
  fits : scene.master.slaves.Fits
  homes
    : ∀ {handle slave},
        scene.master.slaves.get? handle = some slave
        → (scene.master.bus slave.bus).configured = true
          ∧ ∃ peripheral, scene.master.peripheral? slave.bus = some peripheral
  ledger
    : ∀ id, ∀ transaction ∈ (scene.master.bus id).served,
        ∃ slave, scene.master.slaves.get? transaction.handle = some slave ∧ slave.bus = id

/-- A slave owns no bus but its own. -/
theorem Coherent.owner_unique {scene : Scene} (coherent : scene.Coherent) {id other : BusId}
    {handle : Handle} (held : (scene.master.bus id).owner = some handle)
    (there : (scene.master.bus other).owner = some handle)
    : id = other := by
  obtain ⟨slave, -, found, home, -⟩ := (coherent.buses id).owner_known held
  obtain ⟨same, -, known, elsewhere, -⟩ := (coherent.buses other).owner_known there
  obtain rfl := Option.some.inj (found.symm.trans known)
  exact home.symm.trans elsewhere

/-- A master without slaves over new peripherals is idle on every bus. -/
theorem coherent_new (capacity : Fin 255) (paces : PerBus (Option Pace)) (memory : Memory)
    : Coherent
        ⟨.new capacity (.ofFn fun id => (paces.get id).map .new) memory, .ofFn fun _ => none⟩ where
  buses id := by
    simp only [Master.new, Master.bus, PerBus.get_ofFn]
    refine .idle rfl ?_
    intro peripheral here
    obtain ⟨pace, -, rfl⟩ := Option.map_eq_some_iff.mp here
    rfl
  fits := Nat.zero_le _
  homes found := by simp [Master.new, SlaveTable.empty, SlaveTable.get?] at found
  ledger id transaction member := by
    simp [Master.new, Master.bus, Bus.new] at member

/-- Every event keeps the buses in their phases: the bus on which it happens by its cases, the
others because nothing happens there.
-/
theorem Coherent.move {scene next : Scene} {event : Event} (coherent : scene.Coherent)
    (move : scene.Move event next)
    : next.Coherent := by
  cases move with
  | @turn id _ bus left memory turn _ =>
      have kept := turn.keepsPeripheral
      refine ⟨?_, coherent.fits, ?_, ?_⟩
      · intro other
        by_cases same : other = id
        · subst same
          simpa using turn.coherent coherent.fits (coherent.buses other)
        · simpa [same] using coherent.buses other
      · intro handle slave found
        obtain ⟨ready, peripheral, here⟩ := coherent.homes found
        by_cases same : slave.bus = id
        · subst same
          simpa [Master.peripheral?] using And.intro (kept.1 ready) (kept.2 peripheral here)
        · simpa [Master.peripheral?, same] using And.intro ready ⟨peripheral, here⟩
      · intro other transaction member
        by_cases same : other = id
        · subst same
          rcases turn.mem_served (by simpa using member) with old | new
          · exact coherent.ledger other transaction old
          · exact new
        · exact coherent.ledger other transaction (by simpa [same] using member)
  | enter here ready accepted =>
      have known {handle slave} (found : scene.master.slaves.get? handle = some slave) :=
        SlaveTable.get?_of_insert accepted found
      refine ⟨fun id => (coherent.buses id).mono known, coherent.fits.insert accepted, ?_, ?_⟩
      · intro handle slave found
        rcases SlaveTable.get?_insert_cases accepted found with old | ⟨-, rfl⟩
        · exact coherent.homes old
        · exact ⟨ready, _, here⟩
      · intro id transaction member
        obtain ⟨slave, found, home⟩ := coherent.ledger id transaction member
        exact ⟨slave, known found, home⟩
  | advance => exact ⟨coherent.buses, coherent.fits, coherent.homes, coherent.ledger⟩

/-- Events that follow each other keep the buses in their phases, by induction over them. -/
theorem Coherent.moves {scene next : Scene} {events : List Event} (coherent : scene.Coherent)
    (moves : scene.Moves events next)
    : next.Coherent :=
  moves.preserve (fun held _ move => held.move move) coherent
    (fun _ _ => True.intro)

end Scene

end TwoWire
