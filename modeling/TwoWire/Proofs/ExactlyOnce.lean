import TwoWire.Proofs.Completions

/-! Every accepted stream is told about exactly once, over whole runs.

The notices of a run are compared with the ledgers of the buses: on each bus they are the streams
that it was given, in their order, without the one that is outstanding.
-/

namespace TwoWire

open Scene
open Magnetometer

/-- A notice is right: it calls the client of a registered slave with the bus of this slave, which
is idle.
-/
structure Notice.Right (slaves : SlaveTable) (notice : Notice) : Prop where
  idle : notice.busy = false
  called
    : ∃ slave,
        slaves.get? notice.handle = some slave
        ∧ slave.bus = notice.bus
        ∧ notice.tag = slave.reaction.tag?

/-- The action ends the transfer that a stream has armed on a bus. -/
def Action.Ends (id : BusId) : Stream → Action → Prop
  | .rx, .deliver bus _ => bus = id
  | .tx, .drain bus => bus = id
  | _, _ => False

/-- The slave that an answer tells about a completion. -/
def Answer.told? (answer : Answer) : Option Handle :=
  answer.notice.map Notice.handle

namespace Bench

/-- The slaves that are given a stream in a run, as its actions are answered. -/
def acceptedBy (bench : Bench) : List Action → List Handle
  | [] => []
  | action :: rest => bench.accepts action ++ acceptedBy (bench.step action).2 rest

/-- A run together with what accounts for each of its actions. -/
inductive Recounts (rules : ClientRules)
    : PerBus (Option Nat) → Bench → List Action → List Answer → List Handle
      → PerBus (Option Nat) → Bench → Prop
  | nil {trials bench} (tracks : bench.Tracks rules trials)
    : Recounts rules trials bench [] [] [] trials bench
  | cons {trials bench action answer middle accepted events left actions answers given last final}
    (tracks : bench.Tracks rules trials)
    (accounts : bench.Accounts rules trials action (answer, middle) accepted events left)
    (tells : bench.Answers action answer.notice)
    (rest : Recounts rules left middle actions answers given last final)
    : Recounts rules trials bench (action :: actions) (answer :: answers) (accepted ++ given)
        last final

variable {rules : ClientRules} {trials left : PerBus (Option Nat)} {bench final : Bench}
  {actions : List Action} {answers : List Answer} {given : List Handle} {id : BusId}
  {stream : Stream} {handle : Handle} {slave : Slave}

/-- An orderly run can be recounted, by induction over its actions. -/
theorem Follows.recounts
    (follows : Follows (fun _ action => action.Orderly) bench actions)
    (tracks : bench.Tracks .any trials)
    : ∃ left,
        Recounts .any trials bench actions (bench.run actions).1 (bench.acceptedBy actions) left
          (bench.run actions).2 := by
  induction actions generalizing bench trials with
  | nil => exact ⟨trials, .nil tracks⟩
  | cons action actions ih =>
      obtain ⟨events, middle, accounts, -⟩ := tracks.step follows.1.keeps
      obtain ⟨left, rest⟩ := ih follows.2 accounts.tracks
      exact ⟨left, .cons tracks accounts (tracks.answers action) rest⟩

namespace Recounts

theorem tracks (recounts : Recounts rules trials bench actions answers given left final)
    : final.Tracks rules left := by
  induction recounts with
  | nil tracks => exact tracks
  | cons _ _ _ _ ih => exact ih

/-- A handle stands for the same slave throughout a run. -/
theorem known (recounts : Recounts rules trials bench actions answers given left final)
    (found : bench.master.slaves.get? handle = some slave)
    : final.master.slaves.get? handle = some slave := by
  induction recounts with
  | nil => exact found
  | cons _ accounts _ _ ih => exact ih (accounts.moves.known found)

/-- The streams that were told about come first, by induction over the run. -/
theorem tallies (recounts : Recounts rules trials bench actions answers given left final)
    {told : List Handle} (tallied : Tallies ⟨bench.master, trials⟩ id told)
    : Tallies ⟨final.master, left⟩ id (told ++ answers.filterMap (Answer.toldOn id)) := by
  induction recounts generalizing told with
  | nil => simpa using tallied
  | @cons _ _ _ answer _ _ _ _ _ _ _ _ _ tracks accounts _ _ ih =>
      have next := tracks.coherent.tallies_moves accounts.moves tallied
      rw [accounts.toldOn id] at next
      cases answered : answer.toldOn id <;>
        simpa [List.filterMap_cons, answered] using ih next

/-- The ledger of a bus grows by what is accepted for its slaves, by induction over the run. -/
theorem count_streamed (recounts : Recounts rules trials bench actions answers given left final)
    (found : final.master.slaves.get? handle = some slave)
    : (final.master.bus slave.bus).streamed.count handle
      = (bench.master.bus slave.bus).streamed.count handle + given.count handle := by
  induction recounts with
  | nil => rfl
  | cons _ accounts _ rest ih =>
      have first := accounts.moves.count_streamed rest.known found
      rw [ih found, first, accounts.streams, List.count_append, Nat.add_assoc]

/-- The notices of a run are right, and they stay so while the table grows. -/
theorem right (recounts : Recounts rules trials bench actions answers given left final)
    {answer : Answer} (member : answer ∈ answers) {notice : Notice}
    (told : answer.notice = some notice)
    : notice.Right final.master.slaves := by
  induction recounts with
  | nil => exact absurd member List.not_mem_nil
  | cons _ accounts tells rest ih =>
      rcases List.mem_cons.mp member with rfl | later
      · rw [told] at tells
        cases tells with
        | told tells =>
            obtain ⟨slave, found, home, tag⟩ := tells.called
            exact ⟨tells.idle, slave, rest.known (accounts.moves.known found),
              home.trans tells.bus.symm, tag⟩
      · exact ih later

/-- A completion waits until its interrupt is handled, and no one is told on its bus before. -/
theorem waits (recounts : Recounts rules trials bench actions answers given left final)
    (waits : Waits ⟨bench.master, trials⟩ id stream handle)
    (unhandled : ∀ action ∈ actions, action ≠ .complete id stream)
    : answers.filterMap (Answer.toldOn id) = []
      ∧ Waits ⟨final.master, left⟩ id stream handle := by
  induction recounts with
  | nil => exact ⟨rfl, waits⟩
  | @cons _ bench action answer _ _ _ _ _ _ _ _ _ tracks accounts tells _ ih =>
      have untold : answer.toldOn id = none := by
        unfold Answer.toldOn
        cases told : answer.notice with
        | none => rfl
        | some notice =>
            rw [told] at tells
            cases tells with
            | @told other completed _ tells =>
                have elsewhere : notice.bus ≠ id := by
                  intro same
                  obtain rfl := tells.bus.symm.trans same
                  obtain ⟨-, peripheral, here, flag⟩ := waits
                  obtain ⟨_, there, set⟩ := tells.flag
                  obtain rfl := Option.some.inj (here.symm.trans there)
                  obtain rfl := (tracks.coherent.buses _).completed_unique here set flag
                  exact unhandled _ List.mem_cons_self rfl
                simp [elsewhere]
      have silent := (accounts.toldOn id).trans (congrArg Option.toList untold)
      obtain ⟨later, there⟩ := ih (waits.moves tracks.coherent accounts.moves silent)
        (fun action member => unhandled action (List.mem_cons_of_mem _ member))
      exact ⟨by simp [untold, later], there⟩

end Recounts

/-- A slave is told on its own bus only, so its notices can be counted there, by induction over
the answers.
-/
theorem count_told {slaves : SlaveTable} {answers : List Answer}
    (right
      : ∀ answer ∈ answers, ∀ notice, answer.notice = some notice → notice.Right slaves)
    (found : slaves.get? handle = some slave)
    : (answers.filterMap Answer.told?).count handle
      = (answers.filterMap (Answer.toldOn slave.bus)).count handle := by
  induction answers with
  | nil => rfl
  | cons answer rest ih =>
      have later := ih (fun answer member => right answer (List.mem_cons_of_mem _ member))
      have first := right answer List.mem_cons_self
      cases told : answer.notice with
      | none => simpa [Answer.told?, Answer.toldOn, told] using later
      | some notice =>
          obtain ⟨-, owner, known, home, -⟩ := first notice told
          by_cases mine : notice.handle = handle
          · subst mine
            obtain rfl := Option.some.inj (found.symm.trans known)
            simpa [Answer.told?, Answer.toldOn, told, home.symm] using later
          · by_cases here : notice.bus = slave.bus <;>
              simpa [Answer.told?, Answer.toldOn, told, mine, here] using later

theorem streamed_assemble {capacity : Fin 255} {paces : PerBus (Option Pace)}
    {buffers : List (List UInt8)} {sensors : List (Config × Nat)} (id : BusId)
    : ((assemble capacity paces buffers sensors).master.bus id).streamed = [] := by
  simp [assemble, Bench.new, Master.new, Master.bus, Bus.new, Bus.streamed]

theorem tallies_assemble {capacity : Fin 255} {paces : PerBus (Option Pace)}
    {buffers : List (List UInt8)} {sensors : List (Config × Nat)} (id : BusId)
    : Tallies ⟨(assemble capacity paces buffers sensors).master, .ofFn fun _ => none⟩ id [] := by
  simp [Tallies, assemble, Bench.new, Master.new, Master.bus, Bus.new, Bus.streamed, Bus.streaming,
    Bus.owner]

/-- A transfer that ends leaves its completion waiting, by cases on the stream. -/
theorem landed_of_ends {action : Action} (armed : bench.Shows id (.armed stream))
    (ends : action.Ends id stream)
    : (bench.step action).2.Shows id (.landed stream)
      ∧ ((bench.step action).2.master.bus id).owner = (bench.master.bus id).owner := by
  obtain ⟨peripheral, window, here, armed⟩ := armed
  match stream, action, ends with
  | .rx, .deliver _ data, rfl =>
      have delivered : peripheral.deliver bench.master.memory data
          = some ({ peripheral with armed := none }.setCompleted .rx true,
              bench.master.memory.write window data) := by
        simp [Peripheral.deliver, Peripheral.takeArmed, armed]
      simp only [step, deliver, here, delivered]
      refine ⟨⟨{ peripheral with armed := none }.setCompleted .rx true, ?_, rfl⟩, ?_⟩ <;>
        simp [Master.peripheral?, Master.bus, Master.setPeripheral, Master.setBus, Bus.owner]
  | .tx, .drain _, rfl =>
      have drained : peripheral.drain bench.master.memory
          = some ((bench.master.memory.read window).take Peripheral.sentCapacity,
              { peripheral with armed := none }.setCompleted .tx true) := by
        simp [Peripheral.drain, Peripheral.takeArmed, armed]
      simp only [step, drain, withPeripheral, here, drained]
      refine ⟨⟨{ peripheral with armed := none }.setCompleted .tx true, ?_, rfl⟩, ?_⟩ <;>
        simp [Master.peripheral?, Master.bus, Master.setPeripheral, Master.setBus, Bus.owner]

/-- In every run in which transfer-complete flags are raised by the end of transfers only, the
slaves of a bus are told about its streams in the order in which these were given the bus, each
once and up to the one that is outstanding; a slave is told as often as requests of two or more
bytes were accepted for it, but for the outstanding one. Whoever is told is called with its own
bus, which is idle. The next action tells a slave exactly if it is the completion interrupt of a
stream that has completed and was not handled yet; such a completion waits for its interrupt, and
no one is told on its bus before.
-/
theorem told_exactly_once {capacity : Fin 255} {paces : PerBus (Option Pace)}
    {buffers : List (List UInt8)} {sensors : List (Config × Nat)} {actions : List Action}
    (follows
      : Follows (fun _ action => action.Orderly) (assemble capacity paces buffers sensors)
          actions)
    : let answers := ((assemble capacity paces buffers sensors).run actions).1
      let bench := ((assemble capacity paces buffers sensors).run actions).2
      let master := bench.master
      (∀ id,
        (master.bus id).streamed
        = answers.filterMap (Answer.toldOn id) ++ (master.bus id).outstanding)
      ∧ (∀ handle slave, master.slaves.get? handle = some slave
        → (answers.filterMap Answer.told?).count handle
            + (master.bus slave.bus).outstanding.count handle
          = ((assemble capacity paces buffers sensors).acceptedBy actions).count handle)
      ∧ (∀ answer ∈ answers, ∀ notice, answer.notice = some notice
        → notice.Right master.slaves)
      ∧ (∀ action, bench.Answers action (bench.step action).1.notice)
      ∧ (∀ id stream action, bench.Shows id (.armed stream) → action.Ends id stream
        → (bench.step action).2.Shows id (.landed stream)
          ∧ ((bench.step action).2.master.bus id).owner = (master.bus id).owner)
      ∧ ∀ id stream, bench.Shows id (.landed stream)
        → ∀ later, Follows (fun _ action => action.Orderly) bench later
          → (∀ action ∈ later, action ≠ .complete id stream)
          → (bench.run later).1.filterMap (Answer.toldOn id) = []
            ∧ (bench.run later).2.Shows id (.landed stream)
            ∧ ((bench.run later).2.master.bus id).owner = (master.bus id).owner := by
  obtain ⟨trials, recounts⟩ :=
    follows.recounts (tracks_assemble capacity paces buffers sensors)
  generalize (assemble capacity paces buffers sensors).acceptedBy actions = given at recounts ⊢
  generalize (assemble capacity paces buffers sensors).run actions = outcome at recounts ⊢
  obtain ⟨answers, bench⟩ := outcome
  have tracks := recounts.tracks
  have tallied (id : BusId)
      : (bench.master.bus id).streamed
        = answers.filterMap (Answer.toldOn id) ++ (bench.master.bus id).outstanding := by
    rw [(tracks.coherent.buses id).outstanding_eq]
    exact recounts.tallies (tallies_assemble id)
  have right (answer : Answer) (member : answer ∈ answers) (notice : Notice)
      (told : answer.notice = some notice)
      : notice.Right bench.master.slaves :=
    recounts.right member told
  refine ⟨tallied, ?_, right, tracks.answers, fun id stream action => landed_of_ends, ?_⟩
  · intro handle slave found
    have ledger := recounts.count_streamed found
    rw [tallied, List.count_append, ← count_told right found] at ledger
    rw [ledger, streamed_assemble, List.count_nil, Nat.zero_add]
  · intro id stream held later orderly unhandled
    obtain ⟨peripheral, here, flag⟩ := held
    obtain ⟨-, _, handle, _, _, _, -, held, -⟩ :=
      (tracks.coherent.buses id).landed_of_completed here flag
    obtain ⟨left, recounted⟩ := orderly.recounts tracks
    obtain ⟨untold, owned, landed⟩ :=
      recounted.waits ⟨held, peripheral, here, flag⟩ unhandled
    exact ⟨untold, landed, owned.trans held.symm⟩

/-- A client that asks for the next reception as soon as it is told is given two streams; an
interrupt that comes too early and one that is repeated tell it nothing.
-/
theorem told_exactly_once_while_chaining
    : let request : Request := ⟨.read, ⟨0⟩, ⟨.bits8, 0x01⟩, ⟨.buffer 0, 0, 4⟩⟩
      let actions : List Action :=
        [.register ⟨.i2c1, 0x50, .tell "next" (some request)⟩, .tryTransfer request,
          .complete .i2c1 .rx, .deliver .i2c1 [1, 2, 3, 4], .complete .i2c1 .rx,
          .complete .i2c1 .rx]
      ((assemble 2 ⟨some .instant, none, none⟩ [[0, 0, 0, 0]] []).acceptedBy
          actions).count ⟨0⟩ = 2
      ∧ (((assemble 2 ⟨some .instant, none, none⟩ [[0, 0, 0, 0]] []).run
            actions).1.filterMap Answer.told?).count ⟨0⟩
          + (((assemble 2 ⟨some .instant, none, none⟩ [[0, 0, 0, 0]] []).run
              actions).2.master.bus .i2c1).outstanding.count ⟨0⟩
        = ((assemble 2 ⟨some .instant, none, none⟩ [[0, 0, 0, 0]] []).acceptedBy
            actions).count ⟨0⟩ := by
  intro request actions
  have follows
      : Follows (fun _ action => action.Orderly)
          (assemble 2 ⟨some .instant, none, none⟩ [[0, 0, 0, 0]] []) actions :=
    ⟨True.intro, True.intro, True.intro, True.intro, True.intro, True.intro, True.intro⟩
  have registered
      : (((assemble 2 ⟨some .instant, none, none⟩ [[0, 0, 0, 0]] []).run
            actions).2.master.slaves.get? ⟨0⟩).map Slave.bus
        = some .i2c1 := by
    decide +kernel
  obtain ⟨slave, found, home⟩ := Option.map_eq_some_iff.mp registered
  have counted := (told_exactly_once follows).2.1 ⟨0⟩ slave found
  rw [home] at counted
  exact ⟨by decide +kernel, counted⟩

end Bench

end TwoWire
