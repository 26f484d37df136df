import TwoWire.Proofs.Arrivals
import TwoWire.Proofs.Pauses
import TwoWire.Proofs.SingleBytes

/-! How far a bring-up gets in one poll.

A bring-up stands at a step, having said certain frames and begun certain pauses. A poll takes it
to a later step or to its end; on the way it speaks on the bus of its sensor only, and leaves the
bus to whom it found it with.
-/

namespace TwoWire

open Magnetometer

namespace Magnetometer

-----------------------------------------------------------------------------------------
-- Steps that were reached
-----------------------------------------------------------------------------------------

/-- A reading of the identity, with what was answered. -/
def identityFrame (address value : UInt8) : WireFrame :=
  .readByte address ⟨.bits8, 0x07⟩ value

/-- The sensor is told to reset itself before every measurement. -/
def resetFrame (address : UInt8) : WireFrame :=
  .writeByte address ⟨.bits8, 0x11⟩ 0x80

/-- The sensor is told to measure continuously. -/
def activeFrame (address : UInt8) : WireFrame :=
  .writeByte address ⟨.bits8, 0x10⟩ 0x01

/-- The step that comes next, after these frames and these milliseconds of pauses. -/
inductive Reaches (config : Config) : Goal → List WireFrame → Nat → Prop
  | identify {misses : List UInt8} {trials : Nat} (wrong : 0xC4 ∉ misses)
    (left : misses.length + (trials + 1) = config.probeTrials)
    : Reaches config (.identify (trials + 1)) (misses.map (identityFrame config.address))
        (misses.length * config.probeInterval)
  | enableReset {misses : List UInt8} (wrong : 0xC4 ∉ misses)
    (left : misses.length < config.probeTrials)
    : Reaches config .enableReset ((misses ++ [0xC4]).map (identityFrame config.address))
        (misses.length * config.probeInterval)
  | activate {misses : List UInt8} (wrong : 0xC4 ∉ misses)
    (left : misses.length < config.probeTrials)
    : Reaches config .activate
        ((misses ++ [0xC4]).map (identityFrame config.address) ++ [resetFrame config.address])
        (misses.length * config.probeInterval + config.settleTime)
  | finish {misses : List UInt8} (wrong : 0xC4 ∉ misses) (left : misses.length < config.probeTrials)
    : Reaches config .finish
        ((misses ++ [0xC4]).map (identityFrame config.address)
          ++ [resetFrame config.address, activeFrame config.address])
        (misses.length * config.probeInterval + 2 * config.settleTime)

/-- How a bring-up ends, after these frames and these milliseconds of pauses. -/
inductive Concludes (config : Config)
    : List WireFrame → Nat → Except SensorError Unit → Prop
  | succeeded {frames pause} (reached : Reaches config .finish frames pause)
    : Concludes config frames pause (.ok ())
  | failed {misses : List UInt8} (wrong : 0xC4 ∉ misses)
    (spent : misses.length = config.probeTrials)
    : Concludes config (misses.map (identityFrame config.address))
        ((config.probeTrials - 1) * config.probeInterval) (.error .probeFailed)

variable {config : Config} {frames : List WireFrame} {pause trials : Nat} {value : UInt8}

theorem Reaches.matched (reached : Reaches config (.identify (trials + 1)) frames pause)
    : Reaches config .enableReset (frames ++ [identityFrame config.address 0xC4]) pause := by
  cases reached with
  | @identify misses _ wrong left =>
      rw [← List.map_singleton, ← List.map_append]
      exact .enableReset wrong (by omega)

/-- A reading that does not match is one miss more, and a pause follows it. -/
theorem Reaches.missed (reached : Reaches config (.identify (trials + 2)) frames pause)
    (wrong : value ≠ 0xC4)
    : Reaches config (.identify (trials + 1)) (frames ++ [identityFrame config.address value])
        (pause + config.probeInterval) := by
  cases reached with
  | @identify misses _ others left =>
      rw [← List.map_singleton, ← List.map_append, ← Nat.succ_mul,
        show misses.length.succ = (misses ++ [value]).length by simp]
      refine .identify (by simpa using ⟨others, wrong.symm⟩) ?_
      rw [List.length_append, List.length_singleton]
      omega

/-- After the last reading there is no pause. -/
theorem Reaches.exhausted (reached : Reaches config (.identify 1) frames pause)
    (wrong : value ≠ 0xC4)
    : Concludes config (frames ++ [identityFrame config.address value]) pause
        (.error .probeFailed) := by
  cases reached with
  | @identify misses _ others left =>
      rw [← List.map_singleton, ← List.map_append,
        show misses.length = config.probeTrials - 1 by omega]
      refine .failed (by simpa using ⟨others, wrong.symm⟩) ?_
      rw [List.length_append, List.length_singleton]
      omega

theorem Reaches.resetEnabled (reached : Reaches config .enableReset frames pause)
    : Reaches config .activate (frames ++ [resetFrame config.address])
        (pause + config.settleTime) := by
  cases reached with
  | enableReset wrong left => exact .activate wrong left

theorem Reaches.activated (reached : Reaches config .activate frames pause)
    : Reaches config .finish (frames ++ [activeFrame config.address])
        (pause + config.settleTime) := by
  cases reached with
  | activate wrong left =>
      rw [List.append_assoc, Nat.add_assoc, ← Nat.two_mul]
      exact .finish wrong left

-----------------------------------------------------------------------------------------
-- Suspended bring-ups
-----------------------------------------------------------------------------------------

/-- What a step does on the bus. -/
def Goal.operation? (handle : Handle) : Goal → Option Operation
  | .identify _ => some (.readByte handle Register.whoAmI.address)
  | .enableReset => some (.writeByte handle Register.ctrlReg2.address automaticReset)
  | .activate => some (.writeByte handle Register.ctrlReg1.address activeMode)
  | .finish => none

/-- How many slices of pauses are ahead of a step at most. -/
def Goal.ahead (config : Config) : Goal → Nat
  | .identify trials =>
    trials * (Delay.milliseconds config.probeInterval).length
      + 2 * (Delay.milliseconds config.settleTime).length
  | .enableReset => 2 * (Delay.milliseconds config.settleTime).length
  | .activate => (Delay.milliseconds config.settleTime).length
  | .finish => 0

/-- The slices of the pause that a bring-up waits for. -/
def Wait.slices : Wait → List Nat
  | .bus _ => []
  | .pause slices => slices

namespace BringUp

/-- How many slices of pauses are ahead of a bring-up at most. -/
def ahead (config : Config) (rest : BringUp) : Nat :=
  rest.wait.slices.length + rest.goal.ahead config

/-- The handle of a sensor stands for a slave with its settings. -/
structure Placed (config : Config) (handle : Handle) (slave : Slave) (master : Master)
    : Prop where
  known : master.resolve handle = .ok slave
  bus : slave.bus = config.bus
  address : slave.address = config.address

/-- A suspended bring-up stands at a step that it reached, with what is left of its pause. -/
structure Stands (config : Config) (handle : Handle) (slave : Slave)
    (frames : List WireFrame) (rest : BringUp) (delay : Delay)
    : Prop where
  own : rest.handle = handle
  reached
    : ∃ pause,
        Reaches config rest.goal frames pause
        ∧ delay.elapsed + rest.wait.slices.sum = pause * 1000000
  waits
    : ∀ claiming, rest.wait = .bus claiming
      → rest.goal.operation? handle = some claiming.operation ∧ claiming.slave = slave

/-- What happens from a step of a bring-up on: more frames are said, the bus is left to whom it
belonged, and the bring-up stands at a later step or ends. The polls of pauses that are then ahead
of it are less than the bound.
-/
structure Proceeds (config : Config) (handle : Handle) (slave : Slave)
    (frames more : List WireFrame) (bound : Nat) (master : Master) (progress : Progress)
    : Prop where
  speaks : master.Speaks config.bus (more.flatMap WireFrame.commands) progress.2.2
  owner : (progress.2.2.bus config.bus).owner = (master.bus config.bus).owner
  waits
    : ∀ rest, progress.1 = .pending rest
      → Stands config handle slave (frames ++ more) rest progress.2.1
        ∧ progress.2.1.ahead (rest.ahead config) < bound
  ends
    : ∀ outcome, progress.1 = .ready outcome
      → ∃ pause,
          Concludes config (frames ++ more) pause outcome
          ∧ progress.2.1.elapsed = pause * 1000000

variable {handle : Handle} {slave : Slave} {more : List WireFrame} {bound wider : Nat}
  {master middle : Master} {progress : Progress} {goal : Goal} {delay : Delay}

theorem Proceeds.mono
    (proceeds : Proceeds config handle slave frames more bound master progress)
    (wide : bound ≤ wider)
    : Proceeds config handle slave frames more wider master progress :=
  ⟨proceeds.speaks, proceeds.owner,
    fun rest waiting =>
      let ⟨stands, less⟩ := proceeds.waits rest waiting
      ⟨stands, Nat.lt_of_lt_of_le less wide⟩,
    proceeds.ends⟩

/-- What happens after a frame that left the bus idle happens from before the frame. -/
theorem Proceeds.afterFrame {frame : WireFrame}
    (speaks : master.Speaks config.bus frame.commands middle)
    (owner : (middle.bus config.bus).owner = (master.bus config.bus).owner)
    (proceeds : Proceeds config handle slave (frames ++ [frame]) more bound middle progress)
    : Proceeds config handle slave frames (frame :: more) bound master progress where
  speaks := speaks.trans proceeds.speaks
  owner := proceeds.owner.trans owner
  waits rest waiting := by
    rw [List.append_cons]
    exact proceeds.waits rest waiting
  ends outcome ended := by
    rw [List.append_cons]
    exact proceeds.ends outcome ended

theorem Placed.present (placed : Placed config handle slave master)
    : (master.peripheral? config.bus).isSome = true := by
  obtain ⟨-, peripheral, here⟩ := Master.get?_of_resolve placed.known
  rw [← placed.bus]
  exact Option.isSome_of_eq_some here

theorem Placed.afterFrame {frame : WireFrame} (placed : Placed config handle slave master)
    (speaks : master.Speaks config.bus frame.commands middle)
    : Placed config handle slave middle :=
  ⟨speaks.resolve placed.known placed.bus, placed.bus, placed.address⟩

/-- A bring-up that ends or is suspended here says nothing more. -/
theorem proceeds_here {outcome : Poll BringUp (Except SensorError Unit)}
    (waits
      : ∀ rest, outcome = .pending rest
        → Stands config handle slave frames rest delay ∧ delay.ahead (rest.ahead config) < bound)
    (ends
      : ∀ answer, outcome = .ready answer
        → ∃ pause,
            Concludes config frames pause answer ∧ delay.elapsed = pause * 1000000)
    : Proceeds config handle slave frames [] bound master (outcome, delay, master) where
  speaks := .refl master _
  owner := rfl
  waits := by simpa using waits
  ends := by simpa using ends

theorem proceeds_succeed (reached : Reaches config .finish frames pause)
    (spent : delay.elapsed = pause * 1000000)
    : Proceeds config handle slave frames [] bound master (succeed delay master) := by
  refine proceeds_here (by simp) ?_
  rintro _ ⟨⟩
  exact ⟨pause, .succeeded reached, spent⟩

theorem proceeds_fail (concluded : Concludes config frames pause (.error .probeFailed))
    (spent : delay.elapsed = pause * 1000000)
    : Proceeds config handle slave frames [] bound master (fail delay master) := by
  refine proceeds_here (by simp) ?_
  rintro _ ⟨⟩
  exact ⟨pause, concluded, spent⟩

/-- A pause suspends the bring-up before its next step, or is gone through. There is some slack for
a bus that is busy then.
-/
theorem proceeds_afterPause (slack : Nat) {next : Delay → Master → Progress} {slices : List Nat}
    (reached : Reaches config goal frames pause)
    (planned : delay.elapsed + slices.sum = pause * 1000000)
    (proceeds
      : ∀ spent : Delay, spent.elapsed = pause * 1000000
        → ∃ more,
            Proceeds config handle slave frames more (spent.ahead (goal.ahead config) + slack)
              master (next spent master))
    : ∃ more,
        Proceeds config handle slave frames more
          (delay.ahead (slices.length + goal.ahead config) + slack) master
          (afterPause handle goal next slices delay master) := by
  unfold afterPause
  have spends := delay.spends_pause slices
  generalize delay.pause slices = outcome at spends ⊢
  cases spends with
  | ended elapsed _ _ later =>
      rw [← later]
      exact proceeds _ (elapsed.trans planned)
  | suspended elapsed _ later =>
      refine ⟨[], proceeds_here ?_ (by simp)⟩
      rintro _ ⟨⟩
      refine ⟨⟨rfl, ⟨pause, reached, elapsed.trans planned⟩, by simp⟩, ?_⟩
      rw [← later]
      simp only [ahead, Wait.slices]
      omega

/-- A step is taken on an idle bus, and what comes after it follows; on a busy bus the bring-up
waits for its turn.
-/
theorem proceeds_afterOperation {next : Reply → Delay → Master → Progress}
    {operation : Operation} (placed : Placed config handle slave master)
    (reached : Reaches config goal frames pause) (spent : delay.elapsed = pause * 1000000)
    (step : goal.operation? handle = some operation) (own : operation.handle = handle)
    (single : operation.IsSingle)
    (proceeds
      : ∀ reply frame middle, operation.frame? config.address reply = some frame
        → Placed config handle slave middle → (middle.bus config.bus).isBusy = false
        → ∃ more,
            Proceeds config handle slave (frames ++ [frame]) more
              (delay.ahead (goal.ahead config)) middle (next reply delay middle))
    : ∃ more,
        Proceeds config handle slave frames more
          (delay.ahead (goal.ahead config) + (master.bus config.bus).isBusy.toNat) master
          (afterOperation handle goal next delay (master.start operation)) := by
  have singly : master.Singly slave operation (master.start operation) :=
    Master.singly_start single (own ▸ placed.known)
  generalize master.start operation = outcome at singly ⊢
  cases singly with
  | waits busy =>
      refine ⟨[], proceeds_here ?_ (by simp)⟩
      rintro _ ⟨⟩
      refine ⟨⟨rfl, ⟨pause, reached, spent⟩, ?_⟩, ?_⟩
      · rintro _ ⟨⟩
        exact ⟨step, rfl⟩
      · rw [placed.bus] at busy
        simp [ahead, Wait.slices, busy]
  | @served reply frame middle free shape speaks idle =>
      rw [placed.bus] at free speaks idle
      rw [placed.address] at shape
      obtain ⟨more, later⟩ :=
        proceeds reply frame middle shape (placed.afterFrame speaks) idle
      refine ⟨frame :: more, .afterFrame speaks ?_ (later.mono (Nat.le_add_right _ _))⟩
      rw [Bus.isBusy_eq, Option.isSome_eq_false_iff, Option.isNone_iff_eq_none] at free idle
      rw [free, idle]

-----------------------------------------------------------------------------------------
-- The steps from the last one back to the first
-----------------------------------------------------------------------------------------

theorem proceeds_activated (reached : Reaches config .activate frames pause)
    (spent : delay.elapsed = pause * 1000000) (reply : Reply)
    : ∃ more,
        Proceeds config handle slave (frames ++ [activeFrame config.address]) more
          (delay.ahead (Goal.activate.ahead config)) master
          (activated config handle reply delay master) := by
  refine proceeds_afterPause 0 reached.activated ?_
    fun _ elapsed => ⟨[], proceeds_succeed reached.activated elapsed⟩
  rw [Delay.milliseconds, Delay.sum_slices, spent, ← Nat.add_mul]

theorem proceeds_activate (placed : Placed config handle slave master)
    (reached : Reaches config .activate frames pause) (spent : delay.elapsed = pause * 1000000)
    : ∃ more,
        Proceeds config handle slave frames more
          (delay.ahead (Goal.activate.ahead config) + (master.bus config.bus).isBusy.toNat)
          master
          (activate config handle delay master) := by
  refine proceeds_afterOperation placed reached spent rfl rfl .writeByte ?_
  rintro (_ | _) frame middle ⟨⟩ later idle
  exact proceeds_activated reached spent _

theorem proceeds_resetEnabled (placed : Placed config handle slave master)
    (idle : (master.bus config.bus).isBusy = false)
    (reached : Reaches config .enableReset frames pause)
    (spent : delay.elapsed = pause * 1000000) (reply : Reply)
    : ∃ more,
        Proceeds config handle slave (frames ++ [resetFrame config.address]) more
          (delay.ahead (Goal.enableReset.ahead config)) master
          (resetEnabled config handle reply delay master) := by
  have bound : Goal.enableReset.ahead config
      = (Delay.milliseconds config.settleTime).length + Goal.activate.ahead config := by
    simp [Goal.ahead, Nat.two_mul]
  rw [bound]
  refine proceeds_afterPause 0 reached.resetEnabled ?_ fun _ elapsed => ?_
  · rw [Delay.milliseconds, Delay.sum_slices, spent, ← Nat.add_mul]
  · simpa [idle] using proceeds_activate placed reached.resetEnabled elapsed

theorem proceeds_enableReset (placed : Placed config handle slave master)
    (reached : Reaches config .enableReset frames pause)
    (spent : delay.elapsed = pause * 1000000)
    : ∃ more,
        Proceeds config handle slave frames more
          (delay.ahead (Goal.enableReset.ahead config) + (master.bus config.bus).isBusy.toNat)
          master
          (enableReset config handle delay master) := by
  refine proceeds_afterOperation placed reached spent rfl rfl .writeByte ?_
  rintro (_ | _) frame middle ⟨⟩ later idle
  exact proceeds_resetEnabled later idle reached spent _

/-- A reading that matches leads to the first write at once, and one that does not to the next
reading after a pause, or to the end.
-/
theorem proceeds_identified (placed : Placed config handle slave master)
    (idle : (master.bus config.bus).isBusy = false)
    (reached : Reaches config (.identify (trials + 1)) frames pause)
    (spent : delay.elapsed = pause * 1000000) (value : UInt8)
    {again : Delay → Master → Progress}
    (proceeds
      : ∀ left frames pause delay, trials = left + 1
        → Reaches config (.identify trials) frames pause
        → Delay.elapsed delay = pause * 1000000
        → ∃ more,
            Proceeds config handle slave frames more
              (delay.ahead ((Goal.identify trials).ahead config)) master (again delay master))
    : ∃ more,
        Proceeds config handle slave (frames ++ [identityFrame config.address value]) more
          (delay.ahead ((Goal.identify (trials + 1)).ahead config)) master
          (identified config handle trials again (.byte value) delay master) := by
  unfold identified
  split
  · rename_i same
    obtain rfl : value = 0xC4 := Reply.byte.inj same
    obtain ⟨more, later⟩ := proceeds_enableReset placed reached.matched spent
    refine ⟨more, later.mono ?_⟩
    rw [idle]
    exact Delay.ahead_mono (Nat.le_add_left _ _)
  · rename_i differs
    have wrong : value ≠ 0xC4 := fun same => differs (congrArg Reply.byte same)
    match trials with
    | 0 => exact ⟨[], proceeds_fail (reached.exhausted wrong) spent⟩
    | left + 1 =>
        rw [if_neg (Nat.succ_ne_zero left)]
        have bound : (Goal.identify (left + 1 + 1)).ahead config
            = (Delay.milliseconds config.probeInterval).length
              + (Goal.identify (left + 1)).ahead config := by
          simp only [Goal.ahead, Nat.succ_mul (left + 1)]
          omega
        rw [bound]
        refine proceeds_afterPause 0 (reached.missed wrong) ?_ fun _ elapsed =>
          proceeds left _ _ _ rfl (reached.missed wrong) elapsed
        rw [Delay.milliseconds, Delay.sum_slices, spent, ← Nat.add_mul]

/-- Reading the identity goes on with fewer trials, by induction over them. -/
theorem proceeds_identify (placed : Placed config handle slave master)
    (reached : Reaches config (.identify (trials + 1)) frames pause)
    (spent : delay.elapsed = pause * 1000000)
    : ∃ more,
        Proceeds config handle slave frames more
          (delay.ahead ((Goal.identify (trials + 1)).ahead config)
            + (master.bus config.bus).isBusy.toNat)
          master (identify config handle (trials + 1) delay master) := by
  induction trials generalizing frames pause delay master with
  | zero =>
      refine proceeds_afterOperation placed reached spent rfl rfl .readByte ?_
      rintro (_ | value) frame middle ⟨⟩ later idle
      exact proceeds_identified later idle reached spent value (by simp)
  | succ trials ih =>
      refine proceeds_afterOperation placed reached spent rfl rfl .readByte ?_
      rintro (_ | value) frame middle ⟨⟩ later idle
      refine proceeds_identified later idle reached spent value ?_
      intro left frames pause delay _ reached spent
      simpa [idle] using ih later reached spent

theorem proceeds_pursue (placed : Placed config handle slave master)
    (reached : Reaches config goal frames pause) (spent : delay.elapsed = pause * 1000000)
    : ∃ more,
        Proceeds config handle slave frames more
          (delay.ahead (goal.ahead config) + (master.bus config.bus).isBusy.toNat) master
          (pursue config handle goal delay master) := by
  cases id reached with
  | identify => exact proceeds_identify placed reached spent
  | enableReset => exact proceeds_enableReset placed reached spent
  | activate => exact proceeds_activate placed reached spent
  | finish => exact ⟨[], proceeds_succeed reached spent⟩

/-- A step that waited for the bus is taken as if the bring-up came to it now. -/
theorem resume_eq_pursue {claiming : Claiming} (reached : Reaches config goal frames pause)
    (step : goal.operation? handle = some claiming.operation)
    (known : master.resolve handle = .ok claiming.slave)
    : resume config ⟨handle, goal, .bus claiming⟩ delay master
      = pursue config handle goal delay master := by
  obtain ⟨operation, slave⟩ := claiming
  dsimp only at step known
  have begun (filled : operation.isEmpty = false)
      (resolved : master.resolve operation.handle = .ok slave)
      : master.resume ⟨operation, slave⟩ = master.start operation :=
    (Master.start_eq_resume resolved filled).symm
  cases reached with
  | identify | enableReset | activate =>
      obtain rfl := Option.some.inj step
      simp only [resume, begun rfl known]
      rfl
  | finish => simp [Goal.operation?] at step

/-- A suspended bring-up that is polled waited for the bus, and takes its step as if it came to it
now, or it waited for the end of a pause, and goes on after it.
-/
theorem Stands.proceeds {rest : BringUp} (stands : Stands config handle slave frames rest delay)
    (placed : Placed config handle slave master)
    : ∃ more,
        Proceeds config handle slave frames more
          (delay.ahead (rest.ahead config) + (master.bus config.bus).isBusy.toNat) master
          (rest.resume config delay master) := by
  obtain ⟨own, goal, wait⟩ := rest
  obtain ⟨rfl, ⟨pause, reached, elapsed⟩, waits⟩ := stands
  cases wait with
  | bus claiming =>
      obtain ⟨step, same⟩ := waits claiming rfl
      rw [resume_eq_pursue reached step (same ▸ placed.known), ahead, Wait.slices,
        List.length_nil, Nat.zero_add]
      exact proceeds_pursue placed reached elapsed
  | pause slices =>
      simp only [resume, ahead, Wait.slices]
      exact proceeds_afterPause _ reached elapsed fun _ spent =>
        proceeds_pursue placed reached spent

end BringUp

end Magnetometer

end TwoWire
