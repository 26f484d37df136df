import TwoWire.Proofs.Registry
import TwoWire.Proofs.WireOrder

/-! Every bus is brought up exactly once, and before anything else is said on it.

Bringing up a bus has two causes, and both leave the same mark: until a bus is up nothing is said
on it, and what is said from then on begins with its configuration. The records of a peripheral can
be erased, so what was said in a run is gathered action by action.
-/

namespace TwoWire

open Scene
open WireFrame
open Magnetometer

-----------------------------------------------------------------------------------------
-- Frames configure nothing
-----------------------------------------------------------------------------------------

namespace WireFrame

theorem configure_not_mem_selection (address : UInt8) (register : RegisterAddress)
    : .configure ∉ selection address register := by
  obtain ⟨width, number⟩ := register
  cases width <;> simp [selection]

theorem configure_not_mem_refusals (address : UInt8) (count : Nat)
    : .configure ∉ refusals address count := by
  induction count with
  | zero => simp
  | succ count ih =>
      rw [refusals_succ, List.mem_append]
      rintro (first | later)
      · simp [refusal] at first
      · exact ih later

/-- No frame configures a peripheral, by cases on what it moves. -/
theorem configure_not_mem_commands (frame : WireFrame)
    : .configure ∉ frame.commands := by
  cases frame with
  | readByte address register value | writeByte address register value =>
      simp [commands, turnaround, configure_not_mem_selection]
  | stream kind address register length =>
      cases kind <;>
        simp [commands, opening, closing, turnaround, configure_not_mem_selection]
  | probe address count acknowledged =>
      cases acknowledged <;> simp [commands, acknowledgement, configure_not_mem_refusals]

/-- The two parts of a stream transfer make up its frame. -/
theorem configure_not_mem_opening (kind : TransferKind) (address : UInt8)
    (register : RegisterAddress) (length : Nat)
    : .configure ∉ opening kind address register length :=
  fun member =>
    configure_not_mem_commands (.stream kind address register length)
      (List.mem_append_left _ member)

theorem configure_not_mem_closing (kind : TransferKind)
    : .configure ∉ closing kind := by
  cases kind <;> simp [closing]

end WireFrame

/-- Trials say no more than the frame of their probe, whatever became of them. -/
theorem Peripheral.Tried.says {peripheral after : Peripheral} {address : UInt8} {trials : Nat}
    {outcome : Poll Retry.Paused Bool}
    (tried : peripheral.Tried address trials outcome after)
    : ∃ said, peripheral.Says said after ∧ .configure ∉ said := by
  cases tried with
  | @acknowledged count _ _ said =>
      exact ⟨_, said, configure_not_mem_commands (.probe address count true)⟩
  | exhausted said => exact ⟨_, said, configure_not_mem_refusals address trials⟩
  | paused _ _ said => exact ⟨_, said, configure_not_mem_refusals address _⟩

-----------------------------------------------------------------------------------------
-- What is said on one bus
-----------------------------------------------------------------------------------------

namespace Bus

/-- What was said between two states of a bus. Nothing is said before the bus is up, its
configuration comes first, and none follows.
-/
inductive Opens (bus next : Bus) : List Command → Prop
  | silent (down : bus.configured = false) (still : next.configured = false)
    : Opens bus next []
  | first {rest} (down : bus.configured = false) (up : next.configured = true)
    (plain : .configure ∉ rest)
    : Opens bus next (.configure :: rest)
  | later {said} (up : bus.configured = true) (still : next.configured = true)
    (plain : .configure ∉ said)
    : Opens bus next said

variable {slaves : SlaveTable} {id : BusId} {bus middle next : Bus} {left after : Option Nat}
  {event : Scene.Event} {said more : List Command} {old : Peripheral}

/-- Nothing was said, and the bus is as far up as it was. -/
theorem opens_nothing (same : next.configured = bus.configured)
    : bus.Opens next [] := by
  cases up : bus.configured with
  | true => exact .later up (same.trans up) List.not_mem_nil
  | false => exact .silent up (same.trans up)

/-- What is said afterwards configures nothing once the bus is up, by cases on when that was. -/
theorem Opens.trans (head : bus.Opens middle said) (tail : middle.Opens next more)
    : bus.Opens next (said ++ more) := by
  cases head with
  | silent down still =>
      cases tail with
      | silent _ down' => exact .silent down down'
      | first _ up plain => exact .first down up plain
      | later up => simp [still] at up
  | first down up plain =>
      cases tail with
      | silent down' | first down' => simp [up] at down'
      | later _ still plain' => exact .first down still (by simp [plain, plain'])
  | later up still plain =>
      cases tail with
      | silent down | first down => simp [still] at down
      | later _ still' plain' => exact .later up still' (by simp [plain, plain'])

theorem Opens.configured (opens : bus.Opens next said) (up : bus.configured = true)
    : next.configured = true := by
  cases opens with
  | silent down | first down => simp [up] at down
  | later _ still => exact still

/-- What was said on a bus that was not up tells whether it is. -/
theorem Opens.of_down (opens : bus.Opens next said) (down : bus.configured = false)
    : (next.configured = false ∧ said = [])
      ∨ (next.configured = true ∧ ∃ rest, said = .configure :: rest ∧ .configure ∉ rest) := by
  cases opens with
  | silent _ still => exact .inl ⟨still, rfl⟩
  | first _ up plain => exact .inr ⟨up, _, rfl, plain⟩
  | later up => simp [down] at up

/-- On a bus with a slave something can be said, since it is up. Every event but the erasure of the
records says its part of a frame, or it brings up the bus.
-/
theorem Turn.opens (turn : bus.Turn slaves id left event next after)
    (coherent : bus.Coherent slaves id left)
    (homes
      : ∀ {handle slave}, slaves.get? handle = some slave → slave.bus = id
        → bus.configured = true)
    (kept : event ≠ .forget id) (here : bus.peripheral = some old)
    : ∃ new said,
        next.peripheral = some new
        ∧ new.commands = old.commands ++ said
        ∧ bus.Opens next said := by
  cases turn with
  | prepare there new =>
      obtain rfl := Option.some.inj (here.symm.trans there)
      exact ⟨_, _, rfl, (old.says_issue .configure).commands, .first new rfl List.not_mem_nil⟩
  | @serveByte _ _ _ _ _ _ frame found home _ there _ _ said =>
      obtain rfl := Option.some.inj (here.symm.trans there)
      have up := homes found home
      exact ⟨_, _, rfl, said.commands, .later up up frame.configure_not_mem_commands⟩
  | serveStream found home _ there _ opened =>
      obtain rfl := Option.some.inj (here.symm.trans there)
      have up := homes found home
      exact ⟨_, _, rfl, opened.commands, .later up up (configure_not_mem_opening _ _ _ _)⟩
  | claim found home _ there =>
      obtain rfl := Option.some.inj (here.symm.trans there)
      exact ⟨_, [], there, (List.append_nil _).symm, opens_nothing rfl⟩
  | pause found home _ _ there tried =>
      obtain rfl := Option.some.inj (here.symm.trans there)
      obtain ⟨said, spoken, plain⟩ := tried.says
      have up := homes found home
      exact ⟨_, _, rfl, spoken.commands, .later up up plain⟩
  | @conclude _ _ _ acknowledged _ told found home _ _ there tried =>
      obtain rfl := Option.some.inj (here.symm.trans there)
      obtain ⟨said, spoken, plain⟩ := tried.says
      have up := homes found home
      cases acknowledged with
      | true => exact ⟨_, _, rfl, spoken.commands, .later up up plain⟩
      | false =>
          have stopped := spoken.andSays (told.says_issue .stop)
          exact ⟨_, _, rfl, stopped.commands, .later up up (by simp [plain])⟩
  | @land stream _ _ _ there =>
      obtain rfl := Option.some.inj (here.symm.trans there)
      exact ⟨_, [], rfl, (old.leaves_land stream).commands, opens_nothing rfl⟩
  | @close kind _ _ _ found held there =>
      obtain rfl := Option.some.inj (here.symm.trans there)
      obtain ⟨slave, _, known, home, -⟩ := coherent.owner_known held
      have up := homes known home
      have closed := (old.leaves_takeCompleted kind.stream).andSays
        (Peripheral.says_closeFrame _ kind)
      exact ⟨_, _, rfl, closed.commands, .later up up (configure_not_mem_closing kind)⟩
  | touch there silent =>
      obtain rfl := Option.some.inj (here.symm.trans there)
      exact ⟨_, [], rfl, silent.commands, opens_nothing rfl⟩
  | forget => exact absurd rfl kept

/-- Nothing happens on a bus without a peripheral. -/
theorem Turn.present (turn : bus.Turn slaves id left event next after)
    : bus.peripheral.isSome = true := by
  cases turn with
  | serveByte _ _ _ here | serveStream _ _ _ here | claim _ _ _ here | pause _ _ _ _ here
  | conclude _ _ _ _ here | close _ _ here | prepare here | land here | touch here
  | forget here =>
      rw [here]
      rfl

/-- Only one kind of event brings up a bus. -/
theorem Turn.configured_eq (turn : bus.Turn slaves id left event next after)
    (other : event ≠ .prepare id)
    : next.configured = bus.configured := by
  cases turn with
  | prepare => exact absurd rfl other
  | _ => rfl

end Bus

-----------------------------------------------------------------------------------------
-- Events
-----------------------------------------------------------------------------------------

namespace Scene

variable {scene next : Scene} {event : Event} {events : List Event} {id : BusId}
  {old : Peripheral}

/-- One event says its part on the bus on which it happens, and nothing on the others. -/
theorem Coherent.opens (coherent : scene.Coherent) (move : scene.Move event next)
    (kept : event ≠ .forget id) (here : scene.master.peripheral? id = some old)
    : ∃ new said,
        next.master.peripheral? id = some new
        ∧ new.commands = old.commands ++ said
        ∧ (scene.master.bus id).Opens (next.master.bus id) said := by
  have unchanged (same : next.master.bus id = scene.master.bus id)
      : ∃ new said,
          next.master.peripheral? id = some new
          ∧ new.commands = old.commands ++ said
          ∧ (scene.master.bus id).Opens (next.master.bus id) said := by
    rw [Master.peripheral?, same]
    exact ⟨old, [], here, (List.append_nil _).symm, Bus.opens_nothing rfl⟩
  cases move with
  | @turn place _ _ _ _ turn _ =>
      by_cases same : id = place
      · subst same
        have homes {handle slave} (found : scene.master.slaves.get? handle = some slave)
            (home : slave.bus = id)
            : (scene.master.bus id).configured = true :=
          home ▸ (coherent.homes found).1
        simpa [Master.peripheral?] using
          turn.opens (coherent.buses id) homes kept here
      · exact unchanged (bus_change_of_ne same)
  | enter => exact unchanged rfl
  | advance => exact unchanged rfl

/-- What events say one after the other, by induction over them. -/
theorem Coherent.opens_moves (coherent : scene.Coherent) (moves : scene.Moves events next)
    (kept : ∀ event ∈ events, event ≠ .forget id)
    (here : scene.master.peripheral? id = some old)
    : ∃ new said,
        next.master.peripheral? id = some new
        ∧ new.commands = old.commands ++ said
        ∧ (scene.master.bus id).Opens (next.master.bus id) said := by
  induction moves generalizing old with
  | nil => exact ⟨old, [], here, (List.append_nil _).symm, Bus.opens_nothing rfl⟩
  | cons move _ ih =>
      obtain ⟨middle, said, there, first, head⟩ :=
        coherent.opens move (kept _ List.mem_cons_self) here
      obtain ⟨new, more, last, second, tail⟩ := ih (coherent.move move)
        (fun event member => kept event (List.mem_cons_of_mem _ member)) there
      refine ⟨new, said ++ more, last, ?_, head.trans tail⟩
      rw [second, first, List.append_assoc]

/-- A bus without a peripheral stays as it is, by induction over the events. -/
theorem Moves.bus_eq (moves : scene.Moves events next)
    (absent : scene.master.peripheral? id = none)
    : next.master.bus id = scene.master.bus id := by
  induction moves with
  | nil => rfl
  | @cons first event middle events last move _ ih =>
      have same : middle.master.bus id = first.master.bus id := by
        cases move with
        | @turn place _ _ _ _ turn _ =>
            have apart : id ≠ place := by
              rintro rfl
              have present := turn.present
              rw [← Master.peripheral?, absent] at present
              simp at present
            exact bus_change_of_ne apart
        | enter => rfl
        | advance => rfl
      rw [ih (by rw [Master.peripheral?, same]; exact absent), same]

/-- A bus that was brought up meanwhile was so by an event of its own, by induction over the
events.
-/
theorem Moves.prepared (moves : scene.Moves events next)
    (up : (next.master.bus id).configured = true)
    : (scene.master.bus id).configured = true ∨ .prepare id ∈ events := by
  induction moves with
  | nil => exact .inl up
  | @cons first event middle events last move _ ih =>
      rcases ih up with before | later
      · by_cases own : event = .prepare id
        · exact .inr (own ▸ List.mem_cons_self)
        · refine .inl ?_
          cases move with
          | @turn place _ _ _ _ turn _ =>
              by_cases same : id = place
              · subst same
                rw [← turn.configured_eq own]
                simpa using before
              · simpa [same] using before
          | enter => exact before
          | advance => exact before
      · exact .inr (List.mem_cons_of_mem _ later)

end Scene

-----------------------------------------------------------------------------------------
-- Actions
-----------------------------------------------------------------------------------------

namespace Master

theorem configured_configureOnce {bus : Bus} (present : bus.peripheral.isSome = true)
    : bus.configureOnce.configured = true := by
  obtain ⟨peripheral, here⟩ := Option.isSome_iff_exists.mp present
  cases up : bus.configured <;> simp [Bus.configureOnce, here, up]

/-- A registration with a valid address brings up its bus, whatever the table says to the slave. -/
theorem configured_register {master : Master} {slave : Slave} (low : slave.address ≤ 0x7F)
    (present : (master.peripheral? slave.bus).isSome = true)
    : ((master.register slave).2.bus slave.bus).configured = true := by
  have up := configured_configureOnce present
  unfold register
  simp only [UInt8.not_lt.mpr low, Option.isNone_eq_false_iff.mpr present, if_false,
    Bool.false_eq_true]
  split <;> simpa [Master.bus, setBus] using up

end Master

namespace Bench

variable {rules : ClientRules} {trials : PerBus (Option Nat)} {bench : Bench}
  {action : Action} {id : BusId}

/-- The commands that were given on a bus by one action. -/
def saidOn (bench : Bench) (id : BusId) (action : Action) : List Command :=
  bench.master.saidUntil (bench.step action).2.master id

/-- The commands that were given on a bus throughout a run, also those whose records were erased
meanwhile.
-/
def spokenOn (id : BusId) : Bench → List Action → List Command
  | _, [] => []
  | bench, action :: rest => bench.saidOn id action ++ spokenOn id (bench.step action).2 rest

/-- The action is one that brings up a bus: it brings up all of them, or it asks to register a slave
there whose address has seven bits.
-/
def BringsUp (bench : Bench) (action : Action) (id : BusId) : Prop :=
  action = .configureAll
  ∨ ∃ slave,
      bench.registrant action = some slave ∧ slave.bus = id ∧ slave.address ≤ 0x7F

/-- What an action says on a bus goes on from what was said there, or its records are erased and
nothing is said.
-/
theorem Tracks.opens (tracks : bench.Tracks rules trials) (keeps : action.Keeps rules)
    (id : BusId)
    : (bench.master.bus id).Opens ((bench.step action).2.master.bus id)
        (bench.saidOn id action) := by
  obtain ⟨events, left, accounts, -⟩ := tracks.step keeps
  cases here : bench.master.peripheral? id with
  | none =>
      have same := accounts.moves.bus_eq here
      have silent : bench.saidOn id action = [] := by simp [saidOn, Master.saidUntil, here]
      rw [silent]
      exact Bus.opens_nothing (congrArg Bus.configured same)
  | some old =>
      by_cases erased : action = .forget id
      · subst erased
        have same
            : (bench.step (.forget id)).2.master.bus id
              = { bench.master.bus id with peripheral := some old.forget } := by
          simp [Bench.step, withPeripheral, here, Master.setPeripheral, Master.bus,
            Master.setBus]
        have there : (bench.step (.forget id)).2.master.peripheral? id = some old.forget :=
          congrArg Bus.peripheral same
        have silent : bench.saidOn id (.forget id) = [] := by
          simp [saidOn, Master.saidUntil, here, there, Peripheral.forget, Peripheral.commands]
        rw [silent, same]
        exact Bus.opens_nothing rfl
      · have kept (event : Scene.Event) (member : event ∈ events) : event ≠ .forget id := by
          rintro rfl
          exact erased (accounts.causes _ member)
        obtain ⟨new, said, there, commands, opens⟩ :=
          tracks.coherent.opens_moves accounts.moves kept here
        have spoken : bench.saidOn id action = said :=
          Master.saidUntil_of_commands here there commands
        rw [spoken]
        exact opens

/-- After an action a bus is up if it was up before, or if the action brings up the bus and there is
a peripheral. What brings it up is told by its event.
-/
theorem Tracks.configured_step (tracks : bench.Tracks rules trials) (keeps : action.Keeps rules)
    : ((bench.step action).2.master.bus id).configured = true
      ↔ (bench.master.bus id).configured = true
        ∨ ((bench.master.peripheral? id).isSome = true ∧ bench.BringsUp action id) := by
  have opens := tracks.opens keeps id
  constructor
  · intro up
    obtain ⟨events, left, accounts, -⟩ := tracks.step keeps
    rcases accounts.moves.prepared up with before | prepared
    · exact .inl before
    · cases here : bench.master.peripheral? id with
      | some peripheral => exact .inr ⟨rfl, accounts.causes _ prepared⟩
      | none =>
          refine .inl ?_
          rw [← accounts.moves.bus_eq here]
          exact up
  · rintro (before | ⟨present, rfl | ⟨slave, asked, rfl, low⟩⟩)
    · exact opens.configured before
    · simpa [Bench.step, Master.configureAll, Master.bus] using
        Master.configured_configureOnce present
    · rw [(step_of_registrant asked).1]
      exact Master.configured_register low present

/-- What is said in a run is said action by action, by induction over them. -/
theorem Follows.opens {actions : List Action}
    (follows : Follows (fun _ action => action.Orderly) bench actions)
    (tracks : bench.Tracks .any trials) (id : BusId)
    : (bench.master.bus id).Opens ((bench.run actions).2.master.bus id)
        (bench.spokenOn id actions) := by
  induction actions generalizing bench trials with
  | nil => exact Bus.opens_nothing rfl
  | cons action rest ih =>
      obtain ⟨events, left, accounts, -⟩ := tracks.step follows.1.keeps
      exact (tracks.opens follows.1.keeps id).trans (ih follows.2 accounts.tracks)

/-- A bus without a peripheral is the same after a run, by induction over its actions. -/
theorem Follows.bus_eq {actions : List Action}
    (follows : Follows (fun _ action => action.Orderly) bench actions)
    (tracks : bench.Tracks .any trials) (absent : bench.master.peripheral? id = none)
    : (bench.run actions).2.master.bus id = bench.master.bus id := by
  induction actions generalizing bench trials with
  | nil => rfl
  | cons action rest ih =>
      obtain ⟨events, left, accounts, -⟩ := tracks.step follows.1.keeps
      have same : (bench.step action).2.master.bus id = bench.master.bus id :=
        accounts.moves.bus_eq absent
      have there : (bench.step action).2.master.peripheral? id = none :=
        (congrArg Bus.peripheral same).trans absent
      exact (ih follows.2 accounts.tracks there).trans same

-----------------------------------------------------------------------------------------
-- Every run
-----------------------------------------------------------------------------------------

/-- In every run in which transfer-complete flags are raised by the end of transfers only, a bus is
configured at most once, it is up exactly if it was configured, and nothing is said on it before.
A bus that is up stays up. A bus without a peripheral never is, and any other comes up by nothing
but a request to bring up all buses, or to register a slave on it with an address of seven bits,
whether or not the slave is then accepted.
-/
theorem configured_once {capacity : Fin 255} {paces : PerBus (Option Pace)}
    {buffers : List (List UInt8)} {sensors : List (Config × Nat)} {actions : List Action}
    (follows
      : Follows (fun _ action => action.Orderly) (assemble capacity paces buffers sensors)
          actions)
    (id : BusId)
    : let start := assemble capacity paces buffers sensors
      let up := fun bench : Bench => (bench.master.bus id).configured = true
      let spoken := start.spokenOn id actions
      spoken.count .configure ≤ 1
      ∧ (up (start.run actions).2 ↔ .configure ∈ spoken)
      ∧ (∀ first rest, spoken = first :: rest → first = .configure)
      ∧ (∀ earlier later, actions = earlier ++ later
        → up (start.run earlier).2
        → up (start.run actions).2)
      ∧ (paces.get id = none → ¬ up (start.run actions).2)
      ∧ ∀ earlier action later, actions = earlier ++ action :: later
        → let before := (start.run earlier).2
          up (before.step action).2
          ↔ up before ∨ ((paces.get id).isSome = true ∧ before.BringsUp action id) := by
  intro start up spoken
  have tracks : start.Tracks .any (.ofFn fun _ => none) :=
    tracks_assemble capacity paces buffers sensors
  have present (actions : List Action)
      : (((start.run actions).2).master.peripheral? id).isSome = (paces.get id).isSome :=
    ((enrolled_assemble capacity paces buffers sensors).run actions).buses id
  have down : (start.master.bus id).configured = false := by
    simp [start, assemble, Bench.new, Master.new, Master.bus, Bus.new]
  have said
      : (((start.run actions).2.master.bus id).configured = false ∧ spoken = [])
        ∨ (up (start.run actions).2
          ∧ ∃ rest, spoken = .configure :: rest ∧ .configure ∉ rest) :=
    (follows.opens tracks id).of_down down
  clear_value spoken
  refine ⟨?_, ?_, ?_, ?_, ?_, ?_⟩
  · rcases said with ⟨-, rfl⟩ | ⟨-, rest, rfl, plain⟩
    · simp
    · simp [List.count_eq_zero.mpr plain]
  · rcases said with ⟨still, rfl⟩ | ⟨risen, rest, rfl, -⟩
    · simp [up, still]
    · simp [risen]
  · rintro command rest rfl
    rcases said with ⟨-, silent⟩ | ⟨-, others, first, -⟩
    · simp at silent
    · exact (List.cons.inj first).1
  · rintro earlier later rfl before
    obtain ⟨first, second⟩ := follows.split
    obtain ⟨left, tracked, -⟩ := first.tracks (fun _ _ rule => rule.keeps) tracks
    simp only [up, run_append]
    exact (second.opens tracked id).configured before
  · intro absent risen
    have missing : start.master.peripheral? id = none := by
      have none := present []
      rw [absent] at none
      exact Option.isNone_iff_eq_none.mp (Option.isSome_eq_false_iff.mp none)
    have risen : ((start.run actions).2.master.bus id).configured = true := risen
    rw [follows.bus_eq tracks missing, down] at risen
    exact absurd risen Bool.false_ne_true
  · rintro earlier action later rfl
    obtain ⟨first, second⟩ := follows.split
    obtain ⟨left, tracked, -⟩ := first.tracks (fun _ _ rule => rule.keeps) tracks
    refine Iff.trans (tracked.configured_step second.1.keeps) ?_
    rw [present]

/-- A slave that finds no place in the table brings up its bus all the same. The records of that bus
are erased then, and all buses are to be brought up once more.
-/
theorem configured_once_though_refused
    : let actions : List Action :=
        [.register ⟨.i2c1, 0x50, .none⟩,
          .tryTransfer ⟨.read, ⟨0⟩, ⟨.bits16, 0x0102⟩, ⟨.buffer 0, 0, 4⟩⟩,
          .register ⟨.i2c2, 0x51, .none⟩, .forget .i2c2, .configureAll,
          .deliver .i2c1 [1, 2, 3, 4], .complete .i2c1 .rx]
      let start := assemble 1 ⟨some .instant, some .instant, none⟩ [[0, 0, 0, 0]] []
      let bench := (start.run actions).2
      bench.master.slaves.size = 1
      ∧ (bench.master.bus .i2c2).configured = true
      ∧ .configure ∈ start.spokenOn .i2c2 actions
      ∧ (start.spokenOn .i2c2 actions).count .configure ≤ 1 := by
  intro actions start bench
  have follows : Follows (fun _ action => action.Orderly) start actions :=
    ⟨True.intro, True.intro, True.intro, True.intro, True.intro, True.intro, True.intro,
      True.intro⟩
  have up : (bench.master.bus .i2c2).configured = true := by decide
  obtain ⟨few, received, -⟩ := configured_once follows .i2c2
  exact ⟨by decide, up, received.mp up, few⟩

end Bench

end TwoWire
