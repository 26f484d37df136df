import TwoWire.Proofs.HeldBuses
import TwoWire.Proofs.Replies

/-! The course of a standby probe, which the answers to its addresses decide.

The probe waits until its bus is idle. From the turn in which it is given the bus until it answers,
the bus is its own: nobody else says anything there, however often it is suspended. It says the
frame of its course and pauses between two addresses only.
-/

namespace TwoWire

open Magnetometer
open WireFrame

-----------------------------------------------------------------------------------------
-- The course that answers decide
-----------------------------------------------------------------------------------------

/-- The command addresses a slave for sending. -/
def Command.calls : Command → Bool
  | address _ .transmitter => true
  | _ => false

namespace Standby

/-- What a probe does once it was given its bus. -/
structure Course where
  /-- How often the slave is addressed. -/
  trials : Nat
  frame : WireFrame
  outcome : Except MasterError Unit

/-- The slave is addressed until it acknowledges or the trials are used up. The course is told by
the number of refusals that come before the acknowledgement, if there is one in time.
-/
def course (address : UInt8) : (refusals : Option Nat) → Course
  | some refusals => ⟨refusals + 1, .probe address refusals true, .ok ()⟩
  | none => ⟨trials, .probe address trials false, .error .standbyTimeout⟩

/-- The answers to the addresses of a course. -/
def answers : (refusals : Option Nat) → List Bool
  | some refusals => List.replicate refusals false ++ [true]
  | none => List.replicate trials false

/-- How many addresses are refused before the first that is acknowledged, if that comes in time. -/
def refusals? (acknowledged : Nat → Bool) : Option Nat :=
  (List.range trials).find? acknowledged

variable {acknowledged : Nat → Bool} {found : Option Nat} {count : Nat}

theorem refusals?_of_answers (heads : Heads (answers found) acknowledged)
    (left : ∀ count, found = some count → count < trials)
    : refusals? acknowledged = found := by
  have refused {count : Nat} (heads : Heads (List.replicate count false) acknowledged)
      : ∀ trial < count, acknowledged trial ≠ true := by
    intro trial inside
    simpa using heads trial false (by simp [inside])
  cases found with
  | none =>
      refine List.find?_range_eq_none.mpr (fun trial inside => ?_)
      simpa using refused heads trial inside
  | some count =>
      have last : acknowledged count = true := by simpa using heads.last
      refine List.find?_range_eq_some.mpr ⟨last, List.mem_range.mpr (left count rfl), ?_⟩
      intro trial before
      simpa using refused heads.of_append trial before

/-- A number of refusals comes before the acknowledgement if it is less than that of the trials. -/
theorem refusals?_of_count (count : Nat)
    : refusals? (fun trial => decide (count ≤ trial))
      = if count < trials then some count else none := by
  split
  · rename_i early
    exact List.find?_range_eq_some.mpr ⟨by simp, List.mem_range.mpr early, by simp⟩
  · rename_i late
    refine List.find?_range_eq_none.mpr (fun trial inside => ?_)
    simp only [Bool.not_eq_true', decide_eq_false_iff_not]
    omega

/-- Refusals that leave a trial leave one of the course too, and its frame begins with them. -/
theorem refusals_heads_course (address : UInt8)
    (heads : Heads (List.replicate count false) acknowledged) (left : count < trials)
    : let course := course address (refusals? acknowledged)
      count < course.trials ∧ refusals address count <+: course.frame.commands := by
  have within {more : Nat} (fewer : count ≤ more) (rest : List Command)
      : refusals address count <+: refusals address more ++ rest := by
    obtain ⟨later, rfl⟩ := Nat.exists_eq_add_of_le fewer
    rw [refusals_add, List.append_assoc]
    exact List.prefix_append _ _
  cases found : refusals? acknowledged with
  | none => exact ⟨left, within (Nat.le_of_lt left) _⟩
  | some misses =>
      have fewer : count ≤ misses := by
        refine Nat.le_of_not_lt fun before => ?_
        have last : acknowledged misses = true := (List.find?_range_eq_some.mp found).1
        have refused : acknowledged misses = false := heads misses false (by simp [before])
        simp [last] at refused
      exact ⟨Nat.lt_succ_of_le fewer, within fewer _⟩

theorem countP_refusals (address : UInt8) (count : Nat)
    : (refusals address count).countP Command.calls = count
      ∧ (refusals address count).count .stop = 0 := by
  induction count with
  | zero => exact ⟨rfl, rfl⟩
  | succ count ih =>
      rw [refusals_succ, List.countP_append, List.count_append, ih.1, ih.2]
      exact ⟨Nat.add_comm 1 count, rfl⟩

/-- The slave is addressed as often as there are trials, and one stop condition ends the frame. -/
theorem counts_course (address : UInt8) (found : Option Nat)
    : let said := (course address found).frame.commands
      said.countP Command.calls = (course address found).trials
      ∧ said.count .stop = 1
      ∧ said.getLast? = some .stop := by
  cases found with
  | none => simp [course, commands, countP_refusals, Command.calls]
  | some misses =>
      have once : (acknowledgement address).countP Command.calls = 1 := rfl
      have stop : (acknowledgement address).count .stop = 1 := rfl
      have last : (acknowledgement address).getLast? = some .stop := rfl
      simp [course, commands, countP_refusals, List.getLast?_append, once, stop, last]

theorem length_answers (address : UInt8) (found : Option Nat)
    : (answers found).length = (course address found).trials := by
  cases found <;> simp [course, answers]

end Standby

-----------------------------------------------------------------------------------------
-- Turns that make trials
-----------------------------------------------------------------------------------------

/-- What slaves of a bus are arranged to answer. -/
def Bench.script? (id : BusId) (bench : Bench) : Option Script :=
  (bench.master.peripheral? id).map Peripheral.script

namespace Turn

/-- What was answered to the addresses for sending that an action gave on a bus. -/
def replies (id : BusId) (turn : Turn) : List Bool :=
  match turn.before.script? id with
  | none => []
  | some script => script.replies ((turn.said id).countP Command.calls)

/-- The bus was busy, and nothing was done. -/
structure Idles (id : BusId) (turn : Turn) : Prop where
  busy : turn.findsIdle id = false
  answered : turn.answer.result = .pending
  same : turn.after.master = turn.before.master

/-- A number of trials were made on a bus, and these commands were said. -/
structure Tries (id : BusId) (said : List Command) (replies : List Bool) (turn : Turn)
    : Prop where
  heard : turn.said id = said
  answered : turn.replies id = replies
  scripted
    : ∀ script, turn.before.script? id = some script
      → script.replies replies.length = replies
        ∧ turn.after.script? id
          = some { script with refusals := script.refusals - replies.length }

theorem Tries.said_append {id : BusId} {said : List Command} {replies : List Bool} {turn : Turn}
    (tries : turn.Tries id said replies) (held : List Turn)
    : (held ++ [turn]).flatMap (·.said id) = held.flatMap (·.said id) ++ said := by
  rw [List.flatMap_append, List.flatMap_singleton, tries.heard]

theorem Tries.replies_append {id : BusId} {said : List Command} {replies : List Bool}
    {turn : Turn} (tries : turn.Tries id said replies) (held : List Turn)
    : (held ++ [turn]).flatMap (·.replies id) = held.flatMap (·.replies id) ++ replies := by
  rw [List.flatMap_append, List.flatMap_singleton, tries.answered]

end Turn

namespace Bench

variable {bench : Bench} {action : Action} {id : BusId} {number : Nat} {held : List Turn}

/-- Trials on a peripheral make up a turn, if nothing else is said that addresses a slave for
sending.
-/
theorem tries_turn {peripheral told : Peripheral} {address : UInt8} {count : Nat}
    {said : List Command} (here : bench.master.peripheral? id = some peripheral)
    (there : (bench.step action).2.master.peripheral? id = some told)
    (spoken : peripheral.Says said told) (calls : said.countP Command.calls = count)
    (script : told.script = (Retry.after (·.probe address) count peripheral).script)
    : (bench.turn action).Tries id said (Retry.answers (·.probe address) count peripheral) := by
  have before : bench.script? id = some peripheral.script := by simp [script?, here]
  have heard : (bench.turn action).said id = said :=
    Master.saidUntil_of_commands here there spoken.commands
  rw [Peripheral.answers_probe]
  refine ⟨heard, ?_, ?_⟩
  · rw [Turn.replies, heard, calls]
    simp only [turn, before]
  · intro known same
    obtain rfl := Option.some.inj (before.symm.trans same)
    rw [Script.length_replies]
    exact ⟨rfl, by simp [turn, Bench.script?, there, script, Peripheral.script_after]⟩

/-- The slaves of a bus answered all addresses of the turns as was arranged before the first. -/
def Scripted (id : BusId) (held : List Turn) (bench : Bench) : Prop :=
  ∀ claim, held.head? = some claim
    → ∀ script, claim.before.script? id = some script
      → let replies := held.flatMap (·.replies id)
        replies = script.replies replies.length
        ∧ bench.script? id = some { script with refusals := script.refusals - replies.length }

/-- A turn goes on as was arranged when it follows turns that did. -/
theorem Scripted.turn {said : List Command} {replies : List Bool}
    (scripted : Scripted id held bench) (tries : (bench.turn action).Tries id said replies)
    : Scripted id (held ++ [bench.turn action]) (bench.step action).2 := by
  cases held with
  | nil =>
      rintro claim given script known
      obtain rfl : bench.turn action = claim := by simpa using given
      obtain ⟨answered, after⟩ := tries.scripted script known
      simp only [List.nil_append, List.flatMap_singleton, tries.answered]
      exact ⟨answered.symm, after⟩
  | cons first rest =>
      intro claim given script known
      obtain ⟨earlier, current⟩ := scripted claim given script known
      obtain ⟨answered, after⟩ := tries.scripted _ current
      simp only [List.flatMap_append, List.flatMap_singleton, tries.answered,
        List.length_append] at earlier ⊢
      refine ⟨?_, by rw [← Nat.sub_sub]; exact after⟩
      rw [Script.replies_add, answered, ← earlier]

-----------------------------------------------------------------------------------------
-- Probes that wait, hold their bus or are over
-----------------------------------------------------------------------------------------

variable {handle : Handle} {slave : Slave} {schedule : Schedule} {calm : Prop} {last : Turn}

/-- How far a probe got. While it is suspended it has paused once after each of its trials, all of
which were refused, and every poll of a pause was a turn. If the slaves are not given other
arrangements they answer as at the beginning.
-/
inductive Persists (handle : Handle) (slave : Slave) (schedule : Schedule) (number : Nat)
    (calm : Prop) (held : List Turn) (last : Turn) (bench : Bench)
    : Prop
  | waits
    (waiting : bench.task? number = some (.standby (.claiming handle slave) (.new schedule)))
    (new : held = []) (answered : last.answer.result = .pending)
  | holds {paused delay count}
    (waiting : bench.task? number = some (.standby (.pausing slave paused) delay))
    (split : count + paused.trials = Standby.trials) (left : 0 < paused.trials)
    (owned : (bench.master.bus slave.bus).owner = some handle)
    (answered : last.answer.result = .pending)
    (said : held.flatMap (·.said slave.bus) = refusals slave.address count)
    (replies : held.flatMap (·.replies slave.bus) = List.replicate count false)
    (slices : delay.calls + paused.slices.length = count)
    (time : delay.elapsed + paused.slices.sum = count * 1000000)
    (claimed : held ≠ [])
    (patient
      : ∀ more,
          held.length + delay.ahead (paused.slices.length + more)
            = schedule.polls 0 (count + more))
    (scripted : calm → Scripted slave.bus held bench)
  | ended {found delay} (gone : bench.task? number = none)
    (inTime : ∀ count, found = some count → count < Standby.trials)
    (said
      : held.flatMap (·.said slave.bus)
        = (Standby.course slave.address found).frame.commands)
    (replies : held.flatMap (·.replies slave.bus) = Standby.answers found)
    (pauses : delay.calls = (Standby.course slave.address found).trials - 1)
    (elapsed
      : delay.elapsed = ((Standby.course slave.address found).trials - 1) * 1000000)
    (turns
      : held.length = schedule.polls 0 ((Standby.course slave.address found).trials - 1) + 1)
    (answered
      : last.answer
        = ⟨.ofMaster (fun _ => .done) (Standby.course slave.address found).outcome,
            some delay, none⟩)
    (idle : (last.after.master.bus slave.bus).isBusy = false)
    (scripted : calm → Scripted slave.bus held last.after)

/-- A probe that answers in its turn is over. -/
theorem persists_ready {master : Master} {acknowledged : Bool} {after : Peripheral} {spent : Delay}
    {found : Option Nat} {said : List Command} {replies : List Bool}
    (step
      : bench.step action
        = (bench.discard number).settleStandby (some number)
            (master.settleStandby slave (.ready acknowledged, after, spent)))
    (tries : (bench.turn action).Tries slave.bus said replies)
    (inTime : ∀ count, found = some count → count < Standby.trials)
    (whole
      : held.flatMap (·.said slave.bus) ++ said
        = (Standby.course slave.address found).frame.commands)
    (answers : held.flatMap (·.replies slave.bus) ++ replies = Standby.answers found)
    (pauses : spent.calls = (Standby.course slave.address found).trials - 1)
    (elapsed
      : spent.elapsed = ((Standby.course slave.address found).trials - 1) * 1000000)
    (turns : held.length = schedule.polls 0 ((Standby.course slave.address found).trials - 1))
    (outcome
      : (if acknowledged then .ok () else .error .standbyTimeout)
        = (Standby.course slave.address found).outcome)
    (scripted : calm → Scripted slave.bus held bench)
    : Persists handle slave schedule number calm (held ++ [bench.turn action]) (bench.turn action)
        (bench.step action).2 := by
  have polls := master.polls_settleStandby slave (.ready acknowledged, after, spent)
  refine .ended ?_ inTime ((tries.said_append held).trans whole)
    ((tries.replies_append held).trans answers) pauses elapsed ?_ ?_ ?_
    (fun still => (scripted still).turn tries)
  · rw [step]
    exact bench.task?_discard_self number
  · rw [List.length_append, turns, List.length_singleton]
  · simp only [turn, step, ← outcome]
    rfl
  · simp only [turn, step, master_settleStandby]
    exact polls.ends _ rfl

/-- A probe that has its bus makes trials in its turn, by cases on what becomes of them. -/
theorem persists_settleStandby {master : Master} {peripheral : Peripheral}
    {ahead : Nat → Nat} {trials count calls elapsed : Nat}
    {progress : Poll Retry.Paused Bool × Peripheral × Delay}
    (step
      : bench.step action
        = (bench.discard number).settleStandby (some number)
            (master.settleStandby slave progress))
    (here : bench.master.peripheral? slave.bus = some peripheral)
    (owned : (master.bus slave.bus).owner = some handle)
    (makes
      : Retry.Makes Standby.interval (·.probe slave.address) trials peripheral ahead calls
          elapsed progress)
    (split : count + trials = Standby.trials) (left : 0 < trials)
    (said : held.flatMap (·.said slave.bus) = refusals slave.address count)
    (replies : held.flatMap (·.replies slave.bus) = List.replicate count false)
    (slices : calls = count) (time : elapsed = count * 1000000)
    (patient : ∀ more, held.length + ahead more = schedule.polls 0 (count + more))
    (scripted : calm → Scripted slave.bus held bench)
    : Persists handle slave schedule number calm (held ++ [bench.turn action]) (bench.turn action)
        (bench.step action).2 := by
  have settled
      : (bench.step action).2.master = (master.settleStandby slave progress).2.2 := by
    rw [step, master_settleStandby]
  have length : (Delay.milliseconds Standby.interval).length = 1 := rfl
  have unit : Standby.interval * 1000000 = 1000000 := rfl
  cases makes with
  | @succeeded more spent fewer answered paused elapsed prompt =>
      have tries
          : (bench.turn action).Tries slave.bus
              (refusals slave.address more ++ acknowledgement slave.address)
              (List.replicate more false ++ [true]) := by
        have once : (acknowledgement slave.address).countP Command.calls = 1 := rfl
        rw [← answered]
        refine tries_turn here ?_ (Peripheral.says_acknowledgement answered) ?_ rfl
        · simp [settled, Master.settleStandby, Master.peripheral?, Bus.release]
        · simp [Standby.countP_refusals, once]
      have inTime (place : Nat) (same : some (count + more) = some place)
          : place < Standby.trials := by
        obtain rfl := Option.some.inj same
        omega
      refine persists_ready step tries inTime ?_ ?_ ?_ ?_ ?_ rfl scripted
      · rw [said, ← List.append_assoc, ← refusals_add]
        rfl
      · rw [replies, ← List.append_assoc, List.replicate_append_replicate]
        rfl
      · rw [paused, length, slices, Nat.mul_one]
        rfl
      · rw [elapsed, unit, time, ← Nat.add_mul]
        rfl
      · rw [length, Nat.mul_one] at prompt
        have waited := patient more
        rw [prompt] at waited
        exact waited
  | @failed spent answered paused elapsed prompt =>
      have tries
          : (bench.turn action).Tries slave.bus (refusals slave.address trials ++ [.stop])
              (List.replicate trials false) := by
        have spoken := (Peripheral.says_refusals answered).andSays (Peripheral.says_issue _ .stop)
        rw [← answered]
        refine tries_turn here ?_ spoken ?_ rfl
        · simp [settled, Master.settleStandby, Master.peripheral?, Bus.release, Peripheral.stop]
        · simp [Standby.countP_refusals, Command.calls]
      have inTime (place : Nat) (same : none = some place) : place < Standby.trials := by
        simp at same
      refine persists_ready step tries inTime ?_ ?_ ?_ ?_ ?_ rfl scripted
      · rw [said, ← List.append_assoc, ← refusals_add, split]
        rfl
      · rw [replies, List.replicate_append_replicate, split]
        rfl
      · rw [paused, length, slices, Nat.mul_one, ← Nat.add_sub_assoc left, split]
        rfl
      · rw [elapsed, unit, time, ← Nat.add_mul, ← Nat.add_sub_assoc left, split]
        rfl
      · rw [length, Nat.mul_one] at prompt
        have waited := patient (trials - 1)
        rw [prompt, ← Nat.add_sub_assoc left, split] at waited
        exact waited
  | @suspended more rest spent rested pending answered paused elapsed later =>
      have tries
          : (bench.turn action).Tries slave.bus (refusals slave.address more)
              (List.replicate more false) := by
        rw [← answered]
        refine tries_turn here ?_ (Peripheral.says_refusals answered) ?_ rfl
        · simp [settled, Master.settleStandby, Master.peripheral?, Master.setPeripheral]
        · simp [Standby.countP_refusals]
      have whole : count + more + rest.trials = Standby.trials := by omega
      have waiting
          : (bench.step action).2.task? number
            = some (.standby (.pausing slave rest) spent) := by
        rw [step]
        exact task?_keep_self _ _ number
      refine .holds waiting whole pending ?_ ?_ ?_ ?_ ?_ ?_ (by simp) ?_
        (fun still => (scripted still).turn tries)
      · rw [settled]
        simp only [Master.settleStandby, Master.setPeripheral, Master.bus_setBus_self]
        exact owned
      · simp only [turn, step]
        rfl
      · rw [tries.said_append, said, ← refusals_add]
      · rw [tries.replies_append, replies, List.replicate_append_replicate]
      · rw [paused, length, slices, Nat.mul_one]
      · rw [elapsed, unit, time, ← Nat.add_mul]
      · intro further
        rw [List.length_append, List.length_singleton, Nat.add_assoc, Nat.add_comm 1, later,
          length, Nat.mul_one, patient, Nat.add_assoc]

/-- A probe that has not got its bus yet waits on in its turn, or it is given the bus. -/
theorem persists_claimStandby {trials : PerBus (Option Nat)} (tracks : bench.Tracks .any trials)
    (found : bench.master.slaves.get? handle = some slave)
    (step
      : bench.step action
        = (bench.discard number).settleStandby (some number)
            (bench.master.claimStandby handle slave (.new schedule)))
    : (bench.turn action).Idles slave.bus
        ∧ Persists handle slave schedule number calm [] (bench.turn action) (bench.step action).2
      ∨ (bench.turn action).findsIdle slave.bus = true
        ∧ Persists handle slave schedule number calm [bench.turn action] (bench.turn action)
            (bench.step action).2 := by
  obtain ⟨-, peripheral, here⟩ := tracks.coherent.homes found
  have busy : (bench.master.bus slave.bus).isBusy = (bench.master.bus slave.bus).owner.isSome :=
    Bus.isBusy_eq _
  cases held : (bench.master.bus slave.bus).owner with
  | some owner =>
      rw [Master.claimStandby_of_held held] at step
      have waiting
          : (bench.step action).2.task? number
            = some (.standby (.claiming handle slave) (.new schedule)) := by
        rw [step]
        exact task?_keep_self _ _ number
      have answered : (bench.turn action).answer.result = .pending := by
        simp only [turn, step]
        rfl
      refine .inl ⟨⟨?_, answered, ?_⟩, .waits waiting rfl answered⟩
      · simp [turn, Turn.findsIdle, busy, held]
      · simp only [turn, step, master_settleStandby]
  | none =>
      have proper := tracks.coherent.fits.code_ne_vacant found
      obtain ⟨bus, owned, claimed⟩ :=
        Master.claimStandby_of_free held here proper (.new schedule)
      rw [claimed] at step
      refine .inr ⟨by simp [turn, Turn.findsIdle, busy, held], ?_⟩
      have owner
          : ((bench.master.setBus slave.bus bus).bus slave.bus).owner = some handle := by
        rw [Master.bus_setBus_self]
        exact owned
      have makes :=
        Retry.makes_run Standby.interval (·.probe slave.address) Standby.trials peripheral
          (.new schedule) rfl
      have fresh : Scripted slave.bus [] bench := by
        intro claim none
        simp at none
      exact persists_settleStandby step here owner makes (Nat.zero_add _) (by decide) rfl rfl rfl
        rfl (by simp) (fun _ => fresh)

/-- What is so after every action of a run in which a probe is minded. -/
structure Attended (handle : Handle) (slave : Slave) (schedule : Schedule) (number : Nat)
    (calm : Prop) (bench : Bench) (own : List Turn)
    : Prop where
  tracks : ∃ trials, bench.Tracks .any trials
  known : bench.master.slaves.get? handle = some slave
  persists
    : ∃ waited held earlier last,
        own = waited ++ held
        ∧ own = earlier ++ [last]
        ∧ (∀ turn ∈ waited, turn.Idles slave.bus)
        ∧ (∀ claim, held.head? = some claim → claim.findsIdle slave.bus = true)
        ∧ Persists handle slave schedule number calm held last bench

variable {own : List Turn}

/-- What is done beside a probe leaves it where it is, and its bus too. -/
theorem Attended.beside (attended : Attended handle slave schedule number calm bench own)
    (orderly : action.Orderly)
    (still : calm → ∀ arrangement, action ≠ .arrange slave.bus arrangement)
    (apart : action.names? ≠ some number)
    : Attended handle slave schedule number calm (bench.step action).2 own := by
  obtain ⟨⟨trials, tracks⟩, known, waited, held, earlier, last, split, ends, idle, claims,
    persists⟩ := attended
  obtain ⟨events, left, accounts, -⟩ := tracks.step orderly.keeps
  have keeps : (bench.step action).2.task? number = bench.task? number :=
    (beside_step apart).keeps
  refine ⟨⟨left, accounts.tracks⟩, accounts.moves.known known, waited, held, earlier, last, split,
    ends, idle, claims, ?_⟩
  cases persists with
  | waits waiting new answered => exact .waits (keeps.trans waiting) new answered
  | holds waiting split left owned answered said replies slices time claimed patient scripted =>
      have rests := tracks.rests waiting orderly apart
      refine .holds (keeps.trans waiting) split left (rests.owner.trans owned) answered said
        replies slices time claimed patient (fun quiet claim first script given => ?_)
      obtain ⟨earlier, current⟩ := scripted quiet claim first script given
      exact ⟨earlier, (rests.script (still quiet)).trans current⟩
  | ended gone inTime said replies pauses elapsed turns answered idle scripted =>
      exact .ended (keeps.trans gone) inTime said replies pauses elapsed turns answered idle
        scripted

/-- The first poll of a probe is a turn of its own. -/
theorem attended_begin {trials : PerBus (Option Nat)} (tracks : bench.Tracks .any trials)
    (found : bench.master.slaves.get? handle = some slave) (schedule : Schedule) (number : Nat)
    : let first := Action.standby handle schedule (some number)
      Attended handle slave schedule number calm (bench.step first).2 [bench.turn first] := by
  intro first
  have orderly : first.Orderly := True.intro
  obtain ⟨events, left, accounts, -⟩ := tracks.step orderly.keeps
  obtain ⟨-, peripheral, here⟩ := tracks.coherent.homes found
  have resolved : bench.master.resolve handle = .ok slave := by
    simp only [Master.resolve, found, here, Option.isNone_some, Bool.false_eq_true, if_false]
  have step
      : bench.step first
        = (bench.discard number).settleStandby (some number)
            (bench.master.claimStandby handle slave (.new schedule)) := by
    simp only [first, Bench.step, Master.startStandby, resolved]
    rfl
  refine ⟨⟨left, accounts.tracks⟩, accounts.moves.known found, ?_⟩
  rcases persists_claimStandby tracks found step with ⟨idles, persists⟩ | ⟨claims, persists⟩
  · refine ⟨[bench.turn first], [], [], _, rfl, rfl, ?_, by simp, persists⟩
    simpa using idles
  · refine ⟨[], [bench.turn first], [], _, rfl, rfl, by simp, ?_, persists⟩
    simpa using claims

/-- A later poll is a turn that takes the probe on from where it is. -/
theorem Attended.poll (attended : Attended handle slave schedule number calm bench own)
    {task : Task} (waits : bench.task? number = some task)
    : Attended handle slave schedule number calm (bench.step (.poll number)).2
        (own ++ [bench.turn (.poll number)]) := by
  obtain ⟨⟨trials, tracks⟩, known, waited, held, earlier, last, split, ends, idle, claims,
    persists⟩ := attended
  have orderly : (Action.poll number).Orderly := True.intro
  obtain ⟨events, left, accounts, -⟩ := tracks.step orderly.keeps
  refine ⟨⟨left, accounts.tracks⟩, accounts.moves.known known, ?_⟩
  cases persists with
  | ended gone => simp [waits] at gone
  | waits waiting new answered =>
      subst new
      have step
          : bench.step (.poll number)
            = (bench.discard number).settleStandby (some number)
                (bench.master.claimStandby handle slave (.new schedule)) := by
        simp only [Bench.step, waiting]
        rfl
      rcases persists_claimStandby tracks known step with ⟨idles, persists⟩ | ⟨claims, persists⟩
      · refine ⟨own ++ [bench.turn (.poll number)], [], own, _, by simp, rfl, ?_, by simp, persists⟩
        intro turn member
        rcases List.mem_append.mp member with old | new
        · exact idle turn (by simpa [split] using old)
        · obtain rfl := List.mem_singleton.mp new
          exact idles
      · exact ⟨waited, [bench.turn (.poll number)], own, _, by rw [split, List.append_nil], rfl,
          idle, by simpa using claims, persists⟩
  | @holds paused delay count waiting rest left owned answered said replies slices time claimed
      patient scripted =>
      obtain ⟨-, peripheral, here⟩ := tracks.coherent.homes known
      have step
          : bench.step (.poll number)
            = (bench.discard number).settleStandby (some number)
                (bench.master.settleStandby slave
                  (Retry.resume Standby.interval (·.probe slave.address) paused peripheral
                    delay)) := by
        have there : (bench.discard number).master.peripheral? slave.bus = _ := here
        simp only [Bench.step, waiting, resume, Master.resumeStandby, there]
        rfl
      have makes :=
        Retry.makes_resume Standby.interval (·.probe slave.address) left peripheral delay
      have persists :=
        persists_settleStandby step here owned makes rest left said replies slices time patient
          scripted
      refine ⟨waited, held ++ [bench.turn (.poll number)], own, _, ?_, rfl, idle, ?_, persists⟩
      · rw [split, List.append_assoc]
      · intro claim first
        cases held with
        | nil => exact absurd rfl claimed
        | cons claimed later => exact claims claim first

-----------------------------------------------------------------------------------------
-- Every run
-----------------------------------------------------------------------------------------

/-- A probe holds to a course: it waits for its bus; it holds the bus and has done the beginning of
the course, while nobody else can say anything there; or it is over and has done all of it. With the
bus it takes one turn for each poll that finds a pause unfinished, and one more.
-/
inductive HoldsTo (course : Standby.Course) (handle : Handle) (id : BusId) (schedule : Schedule)
    (number : Nat) (held : List Turn) (last : Turn) (now : Bench)
    : Prop
  | waits (new : held = []) (answered : last.answer.result = .pending)
  | holds (answered : last.answer.result = .pending)
    (said : held.flatMap (·.said id) <+: course.frame.commands)
    (owned : (now.master.bus id).owner = some handle)
    (alone
      : ∀ action : Action, action.Orderly → action.names? ≠ some number
        → now.master.saidUntil (now.step action).2.master id = [])
    (patient : held.length ≤ schedule.polls 0 (course.trials - 1))
  | ended {delay}
    (answered
      : last.answer = ⟨.ofMaster (fun _ => .done) course.outcome, some delay, none⟩)
    (said : held.flatMap (·.said id) = course.frame.commands)
    (addresses : (held.flatMap (·.said id)).countP Command.calls = course.trials)
    (stops : (held.flatMap (·.said id)).count .stop = 1)
    (stopped : (held.flatMap (·.said id)).getLast? = some .stop)
    (pauses : delay.calls = course.trials - 1)
    (elapsed : delay.elapsed = (course.trials - 1) * 1000000)
    (turns : held.length = schedule.polls 0 (course.trials - 1) + 1)
    (idle : (last.after.master.bus id).isBusy = false)

/-- A probe, however far it got, holds to the course that the answers decide. -/
theorem Persists.holdsTo (persists : Persists handle slave schedule number calm held last bench)
    {trials : PerBus (Option Nat)} (tracks : bench.Tracks .any trials)
    {acknowledged : Nat → Bool}
    (heads : Heads (held.flatMap (·.replies slave.bus)) acknowledged)
    : HoldsTo (Standby.course slave.address (Standby.refusals? acknowledged)) handle slave.bus
        schedule number held last bench := by
  cases persists with
  | waits _ new answered => exact .waits new answered
  | @holds paused delay count waiting split left owned answered said replies slices time _
      patient =>
      rw [replies] at heads
      obtain ⟨fewer, begun⟩ := Standby.refusals_heads_course slave.address heads (by omega)
      refine .holds answered ?_ owned ?_ ?_
      · rw [said]
        exact begun
      · exact fun action orderly apart => (tracks.rests waiting orderly apart).silent
      · have soFar : held.length ≤ schedule.polls 0 (count + 0) := patient 0 ▸ Nat.le_add_right _ _
        exact Nat.le_trans soFar (Schedule.polls_mono (Nat.le_sub_one_of_lt fewer))
  | @ended found delay _ inTime said replies pauses elapsed turns answered idle =>
      rw [replies] at heads
      rw [Standby.refusals?_of_answers heads inTime]
      obtain ⟨addresses, stops, stopped⟩ := Standby.counts_course slave.address found
      rw [← said] at addresses stops stopped
      exact .ended answered said addresses stops stopped pauses elapsed turns idle

/-- Slaves that refuse a number of addresses and then acknowledge decide how a probe ends. -/
theorem Persists.of_refusals (persists : Persists handle slave schedule number calm held last bench)
    {claim : Turn} {script : Script} (first : held.head? = some claim)
    (known : claim.before.script? slave.bus = some script) (plain : script.refuseAll = false)
    (still : calm) (gone : last.answer.result ≠ .pending)
    : last.answer.result
          = (if script.refusals < Standby.trials then .done else .masterError .standbyTimeout)
        ∧ (held.flatMap (·.said slave.bus)).countP Command.calls
          = min (script.refusals + 1) Standby.trials
        ∧ last.after.script? slave.bus
          = some { script with refusals := script.refusals - Standby.trials } := by
  cases persists with
  | waits _ _ answered | holds _ _ _ _ answered => exact absurd answered gone
  | @ended found delay _ inTime said replies _ _ _ answered _ scripted =>
      obtain ⟨arranged, after⟩ := scripted still claim first script known
      have length := Standby.length_answers slave.address found
      have addresses := (Standby.counts_course slave.address found).1
      rw [replies, Script.replies_eq_map plain] at arranged
      rw [replies, length] at after
      have heads
          : Heads (Standby.answers found) fun trial => decide (script.refusals ≤ trial) := by
        intro place value here
        rw [arranged] at here
        simp only [List.getElem?_map, Option.map_eq_some_iff] at here
        obtain ⟨trial, here, rfl⟩ := here
        obtain ⟨inside, rfl⟩ := List.getElem?_eq_some_iff.mp here
        simp
      have same := Standby.refusals?_of_answers heads inTime
      rw [Standby.refusals?_of_count] at same
      subst same
      rw [answered, said, addresses, after]
      by_cases early : script.refusals < Standby.trials
      · simp only [early, if_true, Standby.course]
        refine ⟨rfl, by omega, ?_⟩
        rw [Nat.sub_eq_zero_of_le (Nat.le_succ _), Nat.sub_eq_zero_of_le (Nat.le_of_lt early)]
      · simp only [early, if_false, Standby.course]
        exact ⟨rfl, by omega, True.intro⟩

/-- The turns of a probe: those in which it waits for its bus, and those from the one on in which
it is given the bus. What it does with the bus is decided by the answers to its addresses. If the
slaves are arranged to refuse a number of addresses, and no other arrangements are made, that
number decides.
-/
structure ProbeRun (handle : Handle) (slave : Slave) (schedule : Schedule) (number : Nat)
    (between : List Action) (own waited held : List Turn) (last : Turn) (now : Bench)
    : Prop where
  split : own = waited ++ held
  ends : own.getLast? = some last
  idle : ∀ turn ∈ waited, turn.Idles slave.bus
  claims : ∀ claim, held.head? = some claim → claim.findsIdle slave.bus = true
  decided
    : ∀ acknowledged, Heads (held.flatMap (·.replies slave.bus)) acknowledged
      → HoldsTo (Standby.course slave.address (Standby.refusals? acknowledged)) handle slave.bus
          schedule number held last now
  counted
    : ∀ claim script,
        held.head? = some claim
        → claim.before.script? slave.bus = some script
        → script.refuseAll = false
        → (∀ action ∈ between, ∀ arrangement, action ≠ .arrange slave.bus arrangement)
        → last.answer.result ≠ .pending
        → last.answer.result
            = (if script.refusals < Standby.trials then .done else .masterError .standbyTimeout)
          ∧ (held.flatMap (·.said slave.bus)).countP Command.calls
            = min (script.refusals + 1) Standby.trials
          ∧ last.after.script? slave.bus
            = some { script with refusals := script.refusals - Standby.trials }

/-- The turns in which a probe holds its bus begin with the first that finds the bus idle. -/
theorem ProbeRun.held_eq {between : List Action} {own waited : List Turn} {now : Bench}
    (runs : ProbeRun handle slave schedule number between own waited held last now)
    : held = own.dropWhile fun turn => !turn.findsIdle slave.bus := by
  have waits : ∀ turn ∈ waited, (!turn.findsIdle slave.bus) = true := by
    intro turn member
    simp [(runs.idle turn member).busy]
  rw [runs.split, List.dropWhile_append_of_pos waits]
  cases claims : held with
  | nil => rfl
  | cons claim rest =>
      have found := runs.claims claim (by rw [claims, List.head?_cons])
      rw [List.dropWhile_cons_of_neg (by simp [found])]

/-- A probe of a registered slave holds to the course that the answers to its addresses decide,
from the turn on in which it is given its bus, whatever was done before and whatever else is done
meanwhile. Until then its turns do nothing.
-/
theorem probe_holds_to_its_course (capacity : Fin 255) (paces : PerBus (Option Pace))
    (buffers : List (List UInt8)) (sensors : List (Config × Nat)) (earlier between : List Action)
    (handle : Handle) (slave : Slave) (schedule : Schedule) (number : Nat)
    : let bench := ((assemble capacity paces buffers sensors).run earlier).2
      let first := Action.standby handle schedule (some number)
      let own := bench.turns number (first :: between)
      let now := (bench.run (first :: between)).2
      Follows (fun _ action => action.Orderly) (assemble capacity paces buffers sensors) earlier
      → bench.master.slaves.get? handle = some slave
      → Follows (fun bench action => action.Orderly ∧ Minds number bench action)
          (bench.step first).2 between
      → ∃ waited held last,
          ProbeRun handle slave schedule number between own waited held last now := by
  intro bench first own now orderly found follows
  let calm := ∀ action ∈ between, ∀ arrangement, action ≠ .arrange slave.bus arrangement
  obtain ⟨trials, tracks, -⟩ :=
    orderly.tracks (fun _ _ orderly => orderly.keeps)
      (tracks_assemble capacity paces buffers sensors)
  have begun : Attended handle slave schedule number calm (bench.step first).2 [bench.turn first] :=
    attended_begin tracks found schedule number
  have beside (bench : Bench) (own : List Turn) (action : Action)
      (attended : Attended handle slave schedule number calm bench own)
      (rule : (action.Orderly ∧ Minds number bench action) ∧ action ∈ between)
      (apart : action.names? ≠ some number)
      : Attended handle slave schedule number calm (bench.step action).2 own :=
    attended.beside rule.1.1 (fun still => still action rule.2) apart
  have attended := follows.andMem.turns (fun _ _ rule => rule.1.2) beside
    (fun _ _ _ attended _ waits => attended.poll waits) begun
  have same : [bench.turn first] ++ (bench.step first).2.turns number between = own := by
    simp [own, turns, first, Action.names?]
  rw [same] at attended
  obtain ⟨⟨left, tracks⟩, -, waited, held, before, last, split, ends, idle, claims, persists⟩ :=
    attended
  exact ⟨waited, held, last, split, by rw [ends, List.getLast?_concat], idle, claims,
    fun acknowledged heads => persists.holdsTo tracks heads,
    fun claim script first known plain still gone =>
      persists.of_refusals first known plain still gone⟩

/-- So does one that finds the bus busy, while another client asks for it in vain. Of every three of
its pauses one ends at once and the others take one poll and two. Nine refusals leave a trial in
which it is acknowledged. After ten it gives up, and those that the slaves would have gone on with
are left.
-/
theorem probe_holds_to_its_course_while_refused
    : let slave : Slave := ⟨.i2c1, 0x50, .none⟩
      let write : Request := ⟨.write, ⟨1⟩, ⟨.bits8, 0x00⟩, ⟨.buffer 0, 0, 2⟩⟩
      let start := assemble 2 ⟨some .instant, none, none⟩ [[1, 2]] []
      let earlier (refusals : Nat) : List Action :=
        [.register slave, .register ⟨.i2c1, 0x51, .none⟩, .tryTransfer write,
          .arrange .i2c1 (.refuseNext refusals)]
      let between : List Action :=
        [.poll 4, .drain .i2c1, .complete .i2c1 .tx, .poll 4, .tryTransfer write, .poll 4, .poll 4,
          .forget .i2c1]
        ++ List.replicate 7 (.poll 4)
      let schedule : Schedule := ⟨fun pause => pause % 3⟩
      let first : Action := .standby ⟨0⟩ schedule (some 4)
      let ends (refusals : Nat) (result : Result) (left : Nat) : Prop :=
        let bench := (start.run (earlier refusals)).2
        let own := bench.turns 4 (first :: between)
        let now := (bench.run (first :: between)).2
        ∃ waited held last,
          ProbeRun ⟨0⟩ slave schedule 4 between own waited held last now
          ∧ last.answer.result = result
          ∧ (held.flatMap (·.said .i2c1)).countP Command.calls = 10
          ∧ (last.after.script? .i2c1).map Script.refusals = some left
      ends 9 .done 0
      ∧ ends 10 (.masterError .standbyTimeout) 0
      ∧ ends 12 (.masterError .standbyTimeout) 2 := by
  intro slave write start earlier between schedule first ends
  have orderly (refusals : Nat)
      : Follows (fun _ action => action.Orderly) start (earlier refusals) :=
    ⟨True.intro, True.intro, True.intro, True.intro, True.intro⟩
  have still (action : Action) (member : action ∈ between) (arrangement : Arrangement)
      : action ≠ .arrange slave.bus arrangement := by
    rintro rfl
    simp [between] at member
  -- all three probes are addressed ten times, so they are polled in the same way
  have polled (refusals : Nat) (few : refusals = 9 ∨ refusals = 10 ∨ refusals = 12)
      : Follows (fun bench action => action.Orderly ∧ Minds 4 bench action)
          ((start.run (earlier refusals)).2.step first).2 between := by
    have polled (bench : Bench) (waits : (bench.task? 4).isSome = true)
        : (Action.poll 4).Orderly ∧ Minds 4 bench (.poll 4) :=
      ⟨True.intro, .inr ⟨rfl, waits⟩⟩
    have other {action : Action} (bench : Bench) (orderly : action.Orderly)
        (apart : action.names? ≠ some 4)
        : action.Orderly ∧ Minds 4 bench action :=
      ⟨orderly, .inl apart⟩
    rcases few with rfl | rfl | rfl <;>
      refine ⟨polled _ ?_, other _ True.intro ?_, other _ True.intro ?_, polled _ ?_,
        other _ True.intro ?_, polled _ ?_, polled _ ?_, other _ True.intro ?_, polled _ ?_,
        polled _ ?_, polled _ ?_, polled _ ?_, polled _ ?_, polled _ ?_, polled _ ?_,
        True.intro⟩ <;>
      decide +kernel
  have course (refusals : Nat) (few : refusals = 9 ∨ refusals = 10 ∨ refusals = 12)
      (result : Result) (settled : result ≠ .pending)
      (shown
        : ((start.run (earlier refusals)).2.turns 4 (first :: between)).getLast?.map
            (fun turn => turn.answer.result)
          = some result)
      : ends refusals result (refusals - 10) := by
    obtain ⟨waited, held, last, runs⟩ :=
      probe_holds_to_its_course 2 ⟨some .instant, none, none⟩ [[1, 2]] [] (earlier refusals) between
        ⟨0⟩ slave schedule 4 (orderly refusals) (by rcases few with rfl | rfl | rfl <;> rfl)
        (polled refusals few)
    rw [runs.ends] at shown
    obtain rfl : last.answer.result = result := Option.some.inj shown
    have script
        : held.head?.bind (fun claim => claim.before.script? .i2c1)
          = some { Script.new with refusals } := by
      rw [runs.held_eq]
      rcases few with rfl | rfl | rfl <;> decide +kernel
    obtain ⟨claim, claims, known⟩ := Option.bind_eq_some_iff.mp script
    obtain ⟨-, addresses, after⟩ := runs.counted claim _ claims known rfl still settled
    refine ⟨waited, held, last, runs, rfl, addresses.trans ?_, ?_⟩
    · rcases few with rfl | rfl | rfl <;> rfl
    · rw [after]
      rfl
  refine ⟨course 9 (.inl rfl) .done (by simp) ?_,
    course 10 (.inr (.inl rfl)) (.masterError .standbyTimeout) (by simp) ?_,
    course 12 (.inr (.inr rfl)) (.masterError .standbyTimeout) (by simp) ?_⟩ <;>
  decide +kernel

end Bench

end TwoWire
