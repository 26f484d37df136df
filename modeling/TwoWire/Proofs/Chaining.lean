import TwoWire.Proofs.Registry
import TwoWire.Proofs.Waiting

/-! Transfers that a client asks for while it is told about a completion.

The bus is freed and its frame is closed before the client is told, and nothing comes after it. So
what is asked for then happens exactly as if it were asked for right after the interrupt. Two
benches are compared that differ only in what the completions of one slave cause.
-/

namespace TwoWire

-----------------------------------------------------------------------------------------
-- Another reaction of one slave
-----------------------------------------------------------------------------------------

/-- The same table but for what the completions of one slave cause. -/
def SlaveTable.reacting (table : SlaveTable) (handle : Handle) (reaction : Reaction)
    : SlaveTable :=
  { table with
    entries := table.entries.modify handle.index fun slave => { slave with reaction } }

theorem SlaveTable.get?_reacting (table : SlaveTable) (handle other : Handle)
    (reaction : Reaction)
    : (table.reacting handle reaction).get? other
      = (table.get? other).map fun slave =>
          if handle.index = other.index then { slave with reaction } else slave := by
  rw [get?, reacting, List.getElem?_modify]
  rfl

namespace Master

variable {master left : Master} {handle : Handle} {reaction : Reaction} {slave : Slave}
  {bus : BusId} {stream : Stream} {tag : String} {notice : Notice} {request : Request}

/-- The same master but for what the completions of one slave cause. -/
def reacting (master : Master) (handle : Handle) (reaction : Reaction) : Master :=
  { master with slaves := master.slaves.reacting handle reaction }

@[simp] theorem reacting_reacting (master : Master) (handle : Handle) (first last : Reaction)
    : (master.reacting handle first).reacting handle last = master.reacting handle last := by
  simp only [reacting, SlaveTable.reacting, List.modify_modify_eq]
  rfl

/-- A slave is found where it was, with at most another reaction. -/
theorem resolve_reacting (other : Handle)
    : (master.reacting handle reaction).resolve other
      = (master.resolve other).map fun slave =>
          if handle.index = other.index then { slave with reaction } else slave := by
  have entry := master.slaves.get?_reacting handle other reaction
  unfold resolve
  rw [show (master.reacting handle reaction).slaves.get? other = _ from entry]
  cases master.slaves.get? other with
  | none => rfl
  | some slave =>
      have home
          : (if handle.index = other.index then { slave with reaction } else slave).bus
            = slave.bus := by
        split <;> rfl
      have present
          : (master.reacting handle reaction).peripheral? slave.bus
            = master.peripheral? slave.bus := rfl
      simp only [Option.map_some, home, present]
      cases master.peripheral? slave.bus <;> rfl

/-- An attempt depends on where its slave lives, and not on what its completions cause. -/
theorem attempt_reacting (slave : Slave) (other : Reaction) (operation : Operation)
    : (master.reacting handle reaction).attempt { slave with reaction := other } operation
      = (master.attempt slave operation).map fun (reply, next) =>
          (reply, next.reacting handle reaction) := by
  simp only [attempt, reacting, Master.bus]
  cases (master.buses.get slave.bus).claim (operation.transaction master.memory) with
  | none => rfl
  | some claimed =>
      simp only [Option.bind_eq_bind, Option.bind_some]
      cases claimed.peripheral <;> rfl

/-- A transfer is answered alike, and leads to states that are alike. -/
theorem tryTransfer_reacting (master : Master) (handle : Handle) (reaction : Reaction)
    (request : Request)
    : (master.reacting handle reaction).tryTransfer request
      = (master.tryTransfer request).map id (·.reacting handle reaction) := by
  unfold tryTransfer
  rw [resolve_reacting]
  cases master.resolve request.handle with
  | error cause => rfl
  | ok slave =>
      have alike
          : (master.reacting handle reaction).attempt
              (if handle.index = request.handle.index then { slave with reaction } else slave)
              (.transfer request)
            = (master.attempt slave (.transfer request)).map fun (reply, next) =>
                (reply, next.reacting handle reaction) := by
        split
        · exact attempt_reacting slave reaction (.transfer request)
        · exact attempt_reacting slave slave.reaction (.transfer request)
      simp only [Except.map, alike]
      split
      · rfl
      · cases master.attempt slave (.transfer request) <;> rfl

/-- So are transfers that are asked for one after the other, by induction over them. -/
theorem tryTransfers_reacting (master : Master) (handle : Handle) (reaction : Reaction)
    (requests : List Request)
    : (master.reacting handle reaction).tryTransfers requests
      = (master.tryTransfers requests).map id (·.reacting handle reaction) := by
  induction requests generalizing master with
  | nil => rfl
  | cons request rest ih =>
      simp only [tryTransfers, tryTransfer_reacting, Prod.map_fst, Prod.map_snd, ih]
      rfl

-----------------------------------------------------------------------------------------
-- Completions of the slave
-----------------------------------------------------------------------------------------

/-- Whatever the completions of the slave cause, the bus is freed and then the slave is told. -/
theorem complete_reacting (first : Reaction)
    (told : ((master.reacting handle first).complete bus stream).1 = some notice)
    (mine : notice.handle = handle)
    : ∃ (peripheral : Peripheral) (slave : Slave),
        ∀ reaction : Reaction,
          (master.reacting handle reaction).complete bus stream
          = (((master.freed bus peripheral stream).reacting handle reaction).notify handle
              { slave with reaction }).map some id := by
  obtain ⟨peripheral, _, here, flag, held, found⟩ := cases_of_told told
  rw [mine] at held found
  simp only [reacting, SlaveTable.get?_reacting, if_true, Option.map_eq_some_iff] at found
  obtain ⟨slave, known, -⟩ := found
  refine ⟨peripheral, slave, fun reaction => complete_of_set here flag held ?_⟩
  simp [reacting, SlaveTable.get?_reacting, known]

/-- A client that asks for transfers when it is told is told the same as one that asks for nothing.
What it asks for may depend on the buses and the memory that it finds, and happens as if it
followed the completion of the other. That other has freed the bus and done nothing else.
-/
theorem complete_calling (requests : PerBus Bus → Memory → List Request)
    (told
      : (master.reacting handle (.call tag fun _ _ => [])).complete bus stream
        = (some notice, left))
    (mine : notice.handle = handle)
    : (∃ peripheral,
        left
        = (master.freed bus peripheral stream).reacting handle (.call tag fun _ _ => []))
      ∧ let (asked, last) := left.tryTransfers (requests left.buses left.memory)
        (master.reacting handle (.call tag requests)).complete bus stream
        = (some { notice with asked }, last.reacting handle (.call tag requests)) := by
  obtain ⟨peripheral, slave, completed⟩ := complete_reacting _ (congrArg Prod.fst told) mine
  rw [completed] at told ⊢
  obtain ⟨first, rfl⟩ := Prod.mk.inj told
  obtain rfl := Option.some.inj first
  refine ⟨⟨peripheral, rfl⟩, ?_⟩
  simp only [notify, id_eq, tryTransfers_reacting, Prod.map_fst, Prod.map_snd,
    reacting_reacting]
  rfl

/-- Only a bus that is busy refuses a transfer for that. -/
theorem isBusy_of_tryTransfer (refused : (master.tryTransfer request).1 = .error .busy)
    : ∃ slave,
        master.slaves.get? request.handle = some slave
        ∧ (master.bus slave.bus).isBusy = true := by
  unfold tryTransfer at refused
  cases resolved : master.resolve request.handle with
  | error cause =>
      simp only [resolved, Except.error.injEq] at refused
      exact absurd (refused ▸ resolved) resolve_ne_busy
  | ok slave =>
      obtain ⟨found, peripheral, here⟩ := get?_of_resolve resolved
      simp only [resolved] at refused
      split at refused
      · simp at refused
      · cases attempted : master.attempt slave (.transfer request) with
        | none =>
            have present := Option.isSome_of_eq_some here
            exact ⟨slave, found, (attempt_eq_none_iff present).mp attempted⟩
        | some outcome => simp [attempted] at refused

/-- On a master whose bus was freed, only the other buses refuse a transfer, and they were busy
before.
-/
theorem isBusy_of_freed {peripheral : Peripheral}
    (refused
      : (((master.freed bus peripheral stream).reacting handle reaction).tryTransfer
          request).1
        = .error .busy)
    : ∃ slave,
        ((master.freed bus peripheral stream).reacting handle reaction).slaves.get?
          request.handle
        = some slave
        ∧ slave.bus ≠ bus
        ∧ (master.bus slave.bus).isBusy = true := by
  obtain ⟨slave, found, busy⟩ := isBusy_of_tryTransfer refused
  refine ⟨slave, found, ?_⟩
  by_cases same : slave.bus = bus
  · simp [same, reacting, freed, setBus, Master.bus, Bus.isBusy, HandleCell.isSome,
      HandleCell.empty] at busy
  · refine ⟨same, ?_⟩
    simpa [reacting, freed, setBus, Master.bus, same] using busy

end Master

-----------------------------------------------------------------------------------------
-- Interrupts
-----------------------------------------------------------------------------------------

namespace Bench

/-- The same bench but for what the completions of one slave cause. -/
def reacting (bench : Bench) (handle : Handle) (reaction : Reaction) : Bench :=
  { bench with master := bench.master.reacting handle reaction }

/-- On any bench, an interrupt of either stream lets a client ask for a transfer when its slave is
told about the completion. It is told and answered, and the bench is left, as if the client had
asked for nothing and the transfer had been asked for right after the interrupt. If the transfer
is refused because of a busy bus, that is another bus, which was busy before the interrupt.
-/
theorem chained_as_asked_after {bench : Bench} {bus : BusId} {stream : Stream}
    {handle : Handle} {tag : String} {request : Request} {notice : Notice}
    (told
      : ((bench.reacting handle (.tell tag none)).step (.complete bus stream)).1.notice
        = some notice)
    (mine : notice.handle = handle)
    : let asking := bench.reacting handle (.tell tag (some request))
      let left := ((bench.reacting handle (.tell tag none)).step (.complete bus stream)).2
      let answer := (left.master.tryTransfer request).1
      (asking.step (.complete bus stream)).1
        = ⟨.done, none, some { notice with asked := [(request, answer)] }⟩
      ∧ (left.step (.tryTransfer request)).1 = .ofResult (.ofMaster (fun _ => .done) answer)
      ∧ (asking.step (.complete bus stream)).2
        = (left.step (.tryTransfer request)).2.reacting handle (.tell tag (some request))
      ∧ (answer = .error .busy
        → ∃ slave,
            left.master.slaves.get? request.handle = some slave
            ∧ slave.bus ≠ bus
            ∧ (bench.master.bus slave.bus).isBusy = true) := by
  intro asking left answer
  have silent
      : (bench.master.reacting handle (.call tag fun _ _ => [])).complete bus stream
        = (some notice, left.master) :=
    Prod.ext told rfl
  obtain ⟨⟨peripheral, freed⟩, chained⟩ :=
    Master.complete_calling (fun _ _ => [request]) silent mine
  have completed
      : asking.master.complete bus stream
        = (some { notice with asked := [(request, answer)] },
          (left.master.tryTransfer request).2.reacting handle (.tell tag (some request))) :=
    chained
  refine ⟨?_, rfl, ?_, ?_⟩
  · simp only [step, completed]
  · simp only [step, completed]
    rfl
  · intro refused
    have refused : (left.master.tryTransfer request).1 = .error .busy := refused
    rw [freed] at refused ⊢
    exact Master.isBusy_of_freed refused

/-- When a reception of four bytes has completed, the client asks for a transmission on the same
bus.
-/
theorem chained_as_asked_after_reception
    : let bench :=
        ((assemble 2 ⟨some .instant, none, none⟩ [[0, 0, 0, 0]] []).run
          [.register ⟨.i2c1, 0x50, .none⟩,
            .tryTransfer ⟨.read, ⟨0⟩, ⟨.bits16, 0x0102⟩, ⟨.buffer 0, 0, 4⟩⟩,
            .deliver .i2c1 [1, 2, 3, 4]]).2
      let request : Request := ⟨.write, ⟨0⟩, ⟨.bits16, 0x0200⟩, ⟨.buffer 0, 1, 3⟩⟩
      let asking := bench.reacting ⟨0⟩ (.tell "again" (some request))
      let left := ((bench.reacting ⟨0⟩ (.tell "again" none)).step (.complete .i2c1 .rx)).2
      (asking.step (.complete .i2c1 .rx)).1.notice
        = some ⟨⟨0⟩, .i2c1, false, some "again", [(request, .ok ())]⟩
      ∧ (asking.step (.complete .i2c1 .rx)).2
        = (left.step (.tryTransfer request)).2.reacting ⟨0⟩ (.tell "again" (some request)) := by
  intro bench request asking left
  have told
      : ((bench.reacting ⟨0⟩ (.tell "again" none)).step (.complete .i2c1 .rx)).1.notice
        = some ⟨⟨0⟩, .i2c1, false, some "again", []⟩ := rfl
  have chained := @chained_as_asked_after _ _ _ _ _ request _ told rfl
  exact ⟨congrArg Answer.notice chained.1, chained.2.2.1⟩

end Bench

end TwoWire
