import TwoWire.Proofs.WireOrder

/-! Frames can be told from what was said on a bus.

The commands are heard one after the other. A frame begins without saying of which kind it is, so
what was heard of it is kept until a command settles the kind; what is left of the frame is known
from then on. Nothing is said between two frames, and nothing has to be: every frame says itself
where it ends.
-/

namespace TwoWire

open WireFrame
open Magnetometer

-----------------------------------------------------------------------------------------
-- What can be told of a frame
-----------------------------------------------------------------------------------------

namespace RegisterAddress

/-- The bytes that are sent of a register address, in their order. -/
def sent (register : RegisterAddress) : List UInt8 :=
  match register.width with
  | .bits8 => [register.low]
  | .bits16 => [register.high, register.low]

/-- The register address as far as it is sent: of a short one the high byte is lost. -/
def onWire (register : RegisterAddress) : RegisterAddress :=
  match register.width with
  | .bits8 => ⟨.bits8, register.number % 256⟩
  | .bits16 => register

/-- The register address of which these bytes were sent, if it is one. -/
def ofSent? : List UInt8 → Option RegisterAddress
  | [low] => some ⟨.bits8, low.toUInt16⟩
  | [high, low] => some ⟨.bits16, high.toUInt16 * 256 + low.toUInt16⟩
  | _ => none

theorem ofSent?_sent (register : RegisterAddress)
    : ofSent? register.sent = some register.onWire := by
  obtain ⟨width, number⟩ := register
  have bound := number.toNat_lt
  cases width with
  | bits8 =>
      have same : number.toUInt8.toUInt16 = number % 256 := by
        apply UInt16.toNat_inj.mp
        simp
      simp only [sent, onWire, ofSent?, low, same]
  | bits16 =>
      have same : (number >>> 8).toUInt8.toUInt16 * 256 + number.toUInt8.toUInt16 = number := by
        apply UInt16.toNat_inj.mp
        simp [Nat.shiftRight_eq_div_pow]
        omega
      simp only [sent, onWire, ofSent?, high, low, same]

/-- The register that is told was sent as these bytes, by cases on how many they are. -/
theorem sent_of_ofSent? {bytes : List UInt8} {register : RegisterAddress}
    (told : ofSent? bytes = some register)
    : register.sent = bytes := by
  unfold ofSent? at told
  split at told
  · obtain rfl := Option.some.inj told
    simp [sent, low]
  · rename_i first last
    obtain rfl := Option.some.inj told
    have upper
        : ((first.toUInt16 * 256 + last.toUInt16) >>> 8).toUInt8 = first := by
      have bound := first.toNat_lt
      have other := last.toNat_lt
      apply UInt8.toNat_inj.mp
      simp [Nat.shiftRight_eq_div_pow]
      omega
    have lower : (first.toUInt16 * 256 + last.toUInt16).toUInt8 = last := by
      apply UInt8.toNat_inj.mp
      simp
    simp only [sent, high, low, upper, lower]
  · simp at told

end RegisterAddress

namespace WireFrame

/-- The frame with the register address as far as it is sent. -/
def onWire : WireFrame → WireFrame
  | readByte address register value => .readByte address register.onWire value
  | writeByte address register value => .writeByte address register.onWire value
  | stream kind address register length => .stream kind address register.onWire length
  | probe address refusals acknowledged => .probe address refusals acknowledged

/-- The frame addresses its slave, which a probe without trials would not do. -/
def Addresses : WireFrame → Prop
  | probe _ refusals acknowledged => 0 < refusals ∨ acknowledged = true
  | _ => True

instance (frame : WireFrame) : Decidable frame.Addresses :=
  match frame with
  | probe _ refusals acknowledged =>
    inferInstanceAs (Decidable (0 < refusals ∨ acknowledged = true))
  | readByte .. | writeByte .. | stream .. => inferInstanceAs (Decidable True)

theorem IsOf.addresses {frame : WireFrame} {slave : Slave} {transaction : Transaction}
    (shape : frame.IsOf slave transaction)
    : frame.Addresses := by
  cases shape with
  | readByte | writeByte | stream => exact True.intro
  | acknowledged => exact .inr rfl
  | exhausted => exact .inl (by decide)

theorem selection_eq (address : UInt8) (register : RegisterAddress)
    : selection address register
      = .start :: .address address .transmitter :: register.sent.map .send := by
  obtain ⟨width, number⟩ := register
  cases width <;> rfl

end WireFrame

-----------------------------------------------------------------------------------------
-- Hearing frames
-----------------------------------------------------------------------------------------

/-- What is known of a frame that was heard in part. -/
inductive Hearing where
  /-- No frame goes on. -/
  | nothing
  /-- A start condition opened a frame. -/
  | started
  /-- A slave was addressed for sending, after it had refused a number of times. -/
  | addressed (address : UInt8) (refusals : Nat)
  | refused (address : UInt8) (refusals : Nat)
  /-- A slave that had refused is about to be addressed again. -/
  | repeating (address : UInt8) (refusals : Nat)
  /-- These bytes were sent to a slave. -/
  | told (address : UInt8) (sent : List UInt8)
  /-- The bus turns around, so what was sent was the register. -/
  | turning (address : UInt8) (register : RegisterAddress)
  /-- The slave was addressed for receiving. -/
  | turned (address : UInt8) (register : RegisterAddress)
  /-- One byte is read, and it comes after these commands. -/
  | reading (address : UInt8) (register : RegisterAddress) (left : List Command)
  /-- The frame is known and has these commands left. -/
  | ending (frame : WireFrame) (left : List Command)
deriving DecidableEq

namespace Hearing

/-- Hear one command, which may end a frame. Commands that do not belong there are not heard. -/
def hear : Hearing → Command → Option (Option WireFrame × Hearing)
  | nothing, .start => some (none, started)
  | started, .address address .transmitter => some (none, addressed address 0)
  | addressed address refusals, .clearAckFailure =>
    some (none, refused address (refusals + 1))
  | addressed address refusals, .clearAddress =>
    some (none, ending (.probe address refusals true) [.stop])
  | addressed address 0, .send value => some (none, told address [value])
  | refused address refusals, .start => some (none, repeating address refusals)
  | refused address refusals, .stop => some (some (.probe address refusals false), nothing)
  | repeating address refusals, .address again .transmitter =>
    if again = address then some (none, addressed address refusals) else none
  | told address sent, .send value => some (none, told address (sent ++ [value]))
  | told address sent, .stop =>
    (RegisterAddress.ofSent? sent.dropLast).bind fun register =>
      sent.getLast?.map fun value => (some (.writeByte address register value), nothing)
  | told address sent, .start =>
    (RegisterAddress.ofSent? sent).map fun register => (none, turning address register)
  | told address sent, .arm .tx length =>
    (RegisterAddress.ofSent? sent).map fun register =>
      (none, ending (.stream .write address register length)
        (.dmaRequests true :: closing .write))
  | turning address register, .address again .receiver =>
    if again = address then some (none, turned address register) else none
  | turned address register, .ack false =>
    some (none, reading address register [.clearAddress, .stop])
  | turned address register, .arm .rx length =>
    some (none, ending (.stream .read address register length)
      (.lastTransfer true :: .dmaRequests true :: closing .read))
  | reading address register [], .receive value =>
    some (none, ending (.readByte address register value) [.ack true])
  | reading address register (next :: left), command =>
    if command = next then some (none, reading address register left) else none
  | ending frame [next], command =>
    if command = next then some (some frame, nothing) else none
  | ending frame (next :: left), command =>
    if command = next then some (none, ending frame left) else none
  | _, _ => none

-- what is heard after other commands, so that no proof has to open the whole definition
section Transitions

variable (address : UInt8) (count length : Nat) (value : UInt8) (sent : List UInt8)
  (register : RegisterAddress) (frame : WireFrame) (next command : Command)
  (left : List Command)

@[simp] theorem hear_refusal
    : (addressed address count).hear .clearAckFailure
      = some (none, refused address (count + 1)) := rfl

@[simp] theorem hear_acknowledgement
    : (addressed address count).hear .clearAddress
      = some (none, ending (.probe address count true) [.stop]) := rfl

@[simp] theorem hear_repeated_start
    : (refused address count).hear .start = some (none, repeating address count) := rfl

@[simp] theorem hear_repeated_address (again : UInt8)
    : (repeating address count).hear (.address again .transmitter)
      = if again = address then some (none, addressed address count) else none := rfl

@[simp] theorem hear_send
    : (told address sent).hear (.send value) = some (none, told address (sent ++ [value])) := rfl

@[simp] theorem hear_stop
    : (told address sent).hear .stop
      = (RegisterAddress.ofSent? sent.dropLast).bind fun register =>
          sent.getLast?.map fun value =>
            (some (.writeByte address register value), nothing) := rfl

@[simp] theorem hear_turnaround
    : (told address sent).hear .start
      = (RegisterAddress.ofSent? sent).map fun register => (none, turning address register) := rfl

@[simp] theorem hear_arm_tx
    : (told address sent).hear (.arm .tx length)
      = (RegisterAddress.ofSent? sent).map fun register =>
          (none, ending (.stream .write address register length)
            (.dmaRequests true :: closing .write)) := rfl

@[simp] theorem hear_receiver (again : UInt8)
    : (turning address register).hear (.address again .receiver)
      = if again = address then some (none, turned address register) else none := rfl

@[simp] theorem hear_ack
    : (turned address register).hear (.ack false)
      = some (none, reading address register [.clearAddress, .stop]) := rfl

@[simp] theorem hear_receive
    : (reading address register []).hear (.receive value)
      = some (none, ending (.readByte address register value) [.ack true]) := rfl

@[simp] theorem hear_reading
    : (reading address register (next :: left)).hear command
      = if command = next then some (none, reading address register left) else none := rfl

@[simp] theorem hear_last
    : (ending frame [next]).hear command
      = if command = next then some (some frame, nothing) else none := rfl

@[simp] theorem hear_ending (after : Command)
    : (ending frame (next :: after :: left)).hear command
      = if command = next then some (none, ending frame (after :: left)) else none := rfl

end Transitions

/-- Hear commands one after the other, and tell the frames that they have ended. -/
def listen : Hearing → List Command → Option (List WireFrame × Hearing)
  | hearing, [] => some ([], hearing)
  | hearing, command :: rest =>
    (hearing.hear command).bind fun (ended, next) =>
      (next.listen rest).map fun (frames, last) => (ended.toList ++ frames, last)

@[simp] theorem listen_nil (hearing : Hearing)
    : hearing.listen [] = some ([], hearing) := rfl

@[simp] theorem listen_cons (hearing : Hearing) (command : Command) (rest : List Command)
    : hearing.listen (command :: rest)
      = (hearing.hear command).bind fun (ended, next) =>
          (next.listen rest).map fun (frames, last) => (ended.toList ++ frames, last) := rfl

end Hearing

/-- The frames that were said, if these commands are whole frames one after the other. -/
def WireFrame.decode (commands : List Command) : Option (List WireFrame) :=
  match Hearing.nothing.listen commands with
  | some (frames, .nothing) => some frames
  | _ => none

namespace Hearing

/-- Hearing these commands ends these frames and leaves what is known then. -/
def Hears (before : Hearing) (said : List Command) (frames : List WireFrame) (after : Hearing)
    : Prop :=
  before.listen said = some (frames, after)

theorem hears_nothing (hearing : Hearing)
    : hearing.Hears [] [] hearing := rfl

theorem Hears.cons {before middle after : Hearing} {command : Command} {said : List Command}
    {ended : Option WireFrame} {frames : List WireFrame}
    (head : before.hear command = some (ended, middle))
    (tail : middle.Hears said frames after)
    : before.Hears (command :: said) (ended.toList ++ frames) after := by
  have rest : middle.listen said = some (frames, after) := tail
  simp [Hears, head, rest]

/-- What is heard in two parts is heard in all, by induction over the first part. -/
theorem Hears.append {before middle after : Hearing} {first second : List Command}
    {frames more : List WireFrame} (head : before.Hears first frames middle)
    (tail : middle.Hears second more after)
    : before.Hears (first ++ second) (frames ++ more) after := by
  induction first generalizing before frames with
  | nil =>
      obtain ⟨rfl, rfl⟩ := Prod.mk.inj (Option.some.inj head)
      exact tail
  | cons command rest ih =>
      simp only [Hears, listen_cons, Option.bind_eq_some_iff, Option.map_eq_some_iff] at head
      obtain ⟨⟨ended, next⟩, heard, ⟨later, last⟩, listened, given⟩ := head
      obtain ⟨rfl, rfl⟩ := Prod.mk.inj given
      rw [List.append_assoc]
      exact .cons heard (ih listened)

-----------------------------------------------------------------------------------------
-- Parts of frames
-----------------------------------------------------------------------------------------

/-- The end of a frame that is known is heard command by command, by induction over it. -/
theorem hears_ending (frame : WireFrame) (next : Command) (left : List Command)
    : (ending frame (next :: left)).Hears (next :: left) [frame] nothing := by
  induction left generalizing next with
  | nil =>
      have heard : (ending frame [next]).hear next = some (some frame, nothing) := by
        simp
      exact .cons heard (hears_nothing nothing)
  | cons after left ih =>
      have heard
          : (ending frame (next :: after :: left)).hear next
            = some (none, ending frame (after :: left)) := by
        simp
      exact .cons heard (ih after)

/-- The bytes of a register address are heard one by one, by cases on the width. -/
theorem hears_selection (address : UInt8) (register : RegisterAddress)
    : nothing.Hears (selection address register) [] (told address register.sent) := by
  obtain ⟨width, number⟩ := register
  cases width <;> rfl

theorem hears_turnaround (address : UInt8) (register : RegisterAddress)
    : (told address register.sent).Hears (turnaround address) []
        (turned address register.onWire) := by
  simp [Hears, turnaround, register.ofSent?_sent]

/-- One byte that is read comes after it was refused and the stop condition was queued. -/
theorem hears_readByte (address : UInt8) (register : RegisterAddress) (value : UInt8)
    : nothing.Hears (readByte address register value).commands
        [readByte address register.onWire value] nothing := by
  refine ((hears_selection address register).append
    (hears_turnaround address register)).append ?_
  simp [Hears]

/-- One byte more was sent than a register address has, and a stop condition follows. -/
theorem hears_writeByte (address : UInt8) (register : RegisterAddress) (value : UInt8)
    : nothing.Hears (writeByte address register value).commands
        [writeByte address register.onWire value] nothing := by
  refine (hears_selection address register).append ?_
  simp [Hears, register.ofSent?_sent]

/-- The stream that is armed tells the kind of the transfer. -/
theorem hears_stream (kind : TransferKind) (address : UInt8) (register : RegisterAddress)
    (length : Nat)
    : nothing.Hears (stream kind address register length).commands
        [stream kind address register.onWire length] nothing := by
  have selected := hears_selection address register
  cases kind with
  | read =>
      have readdressed := selected.append (hears_turnaround address register)
      have heard
          : (turned address register.onWire).hear (.arm .rx length)
            = some (none, ending (.stream .read address register.onWire length)
                (.lastTransfer true :: .dmaRequests true :: closing .read)) := rfl
      simpa [WireFrame.commands, opening] using
        readdressed.append (.cons heard (hears_ending _ _ _))
  | write =>
      have heard
          : (told address register.sent).hear (.arm .tx length)
            = some (none, ending (.stream .write address register.onWire length)
                (.dmaRequests true :: closing .write)) := by
        simp [register.ofSent?_sent]
      simpa [WireFrame.commands, opening] using
        selected.append (.cons heard (hears_ending _ _ _))

/-- A slave that had refused its address goes on refusing it, by induction over the refusals. -/
theorem hears_refusals (address : UInt8) (earlier count : Nat)
    : (refused address earlier).Hears (refusals address count) []
        (refused address (earlier + count)) := by
  induction count generalizing earlier with
  | zero => exact hears_nothing _
  | succ count ih =>
      have once : (refused address earlier).Hears (refusal address) []
          (refused address (earlier + 1)) := by
        simp [Hears, refusal]
      have later := once.append (ih (earlier + 1))
      rw [← refusals_succ, Nat.add_assoc, Nat.add_comm 1 count] at later
      exact later

/-- A probe says how often it was refused, by cases on whether it was refused at all. -/
theorem hears_probe (address : UInt8) (count : Nat) (acknowledged : Bool)
    (addresses : (probe address count acknowledged).Addresses)
    : nothing.Hears (probe address count acknowledged).commands
        [probe address count acknowledged] nothing := by
  cases count with
  | zero =>
      obtain rfl : acknowledged = true := by simpa [Addresses] using addresses
      rfl
  | succ count =>
      have first : nothing.Hears (refusal address) [] (refused address 1) := rfl
      have trials := first.append (hears_refusals address 1 count)
      rw [← refusals_succ, Nat.add_comm 1 count] at trials
      refine trials.append ?_
      cases acknowledged with
      | true => simp [Hears, acknowledgement]
      | false => rfl

/-- A whole frame is heard between two moments at which nothing goes on, by cases on the frame. -/
theorem hears_commands {frame : WireFrame} (addresses : frame.Addresses)
    : nothing.Hears frame.commands [frame.onWire] nothing := by
  cases frame with
  | readByte address register value => exact hears_readByte address register value
  | writeByte address register value => exact hears_writeByte address register value
  | stream kind address register length => exact hears_stream kind address register length
  | probe address refusals acknowledged =>
      exact hears_probe address refusals acknowledged addresses

end Hearing

-----------------------------------------------------------------------------------------
-- Whole frames
-----------------------------------------------------------------------------------------

namespace WireFrame

variable {frames others : List WireFrame} {commands : List Command}

/-- Frames that follow each other are heard one after the other, by induction over them. -/
theorem hears_frames (addresses : ∀ frame ∈ frames, frame.Addresses)
    : Hearing.nothing.Hears (frames.flatMap WireFrame.commands) (frames.map onWire) .nothing := by
  induction frames with
  | nil => exact Hearing.hears_nothing .nothing
  | cons frame rest ih =>
      have first := Hearing.hears_commands (addresses frame List.mem_cons_self)
      exact first.append (ih fun other member => addresses other (List.mem_cons_of_mem _ member))

/-- Frames that were said one after the other are told again, as far as they are on the wire. -/
theorem decode_commands (addresses : ∀ frame ∈ frames, frame.Addresses)
    : decode (frames.flatMap WireFrame.commands) = some (frames.map onWire) := by
  have heard : Hearing.nothing.listen (frames.flatMap WireFrame.commands)
      = some (frames.map onWire, .nothing) :=
    hears_frames addresses
  simp [decode, heard]

/-- The same bytes are told apart by how many of them come before the stop condition. -/
example
    : decode
        ((writeByte 0x50 ⟨.bits16, 0x0102⟩ 3).commands
          ++ (writeByte 0x50 ⟨.bits8, 0x0102⟩ 3).commands
          ++ (probe 0x50 2 true).commands)
      = some
          [.writeByte 0x50 ⟨.bits16, 0x0102⟩ 3, .writeByte 0x50 ⟨.bits8, 2⟩ 3,
            .probe 0x50 2 true] := by
  decide

end WireFrame

-----------------------------------------------------------------------------------------
-- Nothing but frames
-----------------------------------------------------------------------------------------

namespace Hearing

/-- These commands of a frame that goes on were heard. -/
inductive Heard : Hearing → List Command → Prop
  | nothing : Heard nothing []
  | started : Heard started [.start]
  | addressed {address count}
    : Heard (addressed address count)
        (WireFrame.refusals address count ++ [.start, .address address .transmitter])
  | refused {address count} (positive : 0 < count)
    : Heard (refused address count) (WireFrame.refusals address count)
  | repeating {address count} (positive : 0 < count)
    : Heard (repeating address count) (WireFrame.refusals address count ++ [.start])
  | told {address sent}
    : Heard (told address sent)
        (.start :: .address address .transmitter :: sent.map .send)
  | turning {address register}
    : Heard (turning address register) (selection address register ++ [.start])
  | turned {address register}
    : Heard (turned address register) (selection address register ++ turnaround address)
  | reading {address register left heard}
    (parts
      : heard ++ left
        = selection address register ++ turnaround address
          ++ [.ack false, .clearAddress, .stop])
    : Heard (reading address register left) heard
  | ending {frame left heard} (addresses : frame.Addresses)
    (parts : heard ++ left = frame.commands)
    : Heard (ending frame left) heard

/-- The command goes on with a frame of which this was heard, or ends it. -/
inductive Extends (heard : List Command) (command : Command) : Option WireFrame → Hearing → Prop
  | goesOn {next} (more : next.Heard (heard ++ [command])) : Extends heard command none next
  | ends {frame} (addresses : frame.Addresses) (whole : heard ++ [command] = frame.commands)
    : Extends heard command (some frame) nothing

section Extensions

variable {address : UInt8} {count : Nat} {sent : List UInt8} {register : RegisterAddress}
  {frame : WireFrame} {left heard : List Command} {next : Hearing} {command : Command}
  {ended : Option WireFrame}

theorem Heard.of_eq {other : List Command} (before : next.Heard heard) (same : heard = other)
    : next.Heard other :=
  same ▸ before

theorem not_heard {goal : Prop} (step : none = some (ended, next))
    : goal := by
  cases step

theorem extends_addressed (step : (addressed address count).hear command = some (ended, next))
    : Extends (WireFrame.refusals address count ++ [.start, .address address .transmitter])
        command ended next := by
  cases command with
  | clearAckFailure =>
      obtain ⟨rfl, rfl⟩ := Prod.mk.inj (Option.some.inj step)
      refine .goesOn ((Heard.refused (Nat.succ_pos count)).of_eq ?_)
      simp [refusals_add address count 1, refusals_succ, refusal]
  | clearAddress =>
      obtain ⟨rfl, rfl⟩ := Prod.mk.inj (Option.some.inj step)
      refine .goesOn (.ending (.inr rfl) ?_)
      simp [WireFrame.commands, acknowledgement]
  | send value =>
      cases count with
      | zero =>
          obtain ⟨rfl, rfl⟩ := Prod.mk.inj (Option.some.inj step)
          exact .goesOn .told
      | succ count => exact not_heard step
  | _ => exact not_heard step

theorem extends_refused (positive : 0 < count)
    (step : (refused address count).hear command = some (ended, next))
    : Extends (WireFrame.refusals address count) command ended next := by
  cases command with
  | start =>
      obtain ⟨rfl, rfl⟩ := Prod.mk.inj (Option.some.inj step)
      exact .goesOn (.repeating positive)
  | stop =>
      obtain ⟨rfl, rfl⟩ := Prod.mk.inj (Option.some.inj step)
      exact .ends (.inl positive) rfl
  | _ => exact not_heard step

theorem extends_repeating (step : (repeating address count).hear command = some (ended, next))
    : Extends (WireFrame.refusals address count ++ [.start]) command ended next := by
  cases command with
  | address again direction =>
      cases direction with
      | transmitter =>
          simp only [hear_repeated_address, Option.ite_none_right_eq_some] at step
          obtain ⟨rfl, same⟩ := step
          obtain ⟨rfl, rfl⟩ := Prod.mk.inj (Option.some.inj same)
          exact .goesOn (Heard.addressed.of_eq (by simp))
      | receiver => exact not_heard step
  | _ => exact not_heard step

/-- Only now is it known whether the last byte belonged to the register or was to be written. -/
theorem extends_told (step : (told address sent).hear command = some (ended, next))
    : Extends (.start :: .address address .transmitter :: sent.map .send) command ended
        next := by
  cases command with
  | send value =>
      obtain ⟨rfl, rfl⟩ := Prod.mk.inj (Option.some.inj step)
      exact .goesOn (Heard.told.of_eq (by simp))
  | stop =>
      simp only [hear_stop, Option.bind_eq_some_iff, Option.map_eq_some_iff] at step
      obtain ⟨register, known, value, last, same⟩ := step
      obtain ⟨rfl, rfl⟩ := Prod.mk.inj same
      obtain ⟨front, rfl⟩ := List.getLast?_eq_some_iff.mp last
      rw [List.dropLast_concat] at known
      refine .ends True.intro ?_
      simp [WireFrame.commands, selection_eq, RegisterAddress.sent_of_ofSent? known]
  | start =>
      simp only [hear_turnaround, Option.map_eq_some_iff] at step
      obtain ⟨register, known, same⟩ := step
      obtain ⟨rfl, rfl⟩ := Prod.mk.inj same
      refine .goesOn (Heard.turning.of_eq ?_)
      simp [selection_eq, RegisterAddress.sent_of_ofSent? known]
  | arm stream length =>
      cases stream with
      | tx =>
          simp only [hear_arm_tx, Option.map_eq_some_iff] at step
          obtain ⟨register, known, same⟩ := step
          obtain ⟨rfl, rfl⟩ := Prod.mk.inj same
          refine .goesOn (.ending True.intro ?_)
          simp [WireFrame.commands, opening, selection_eq,
            RegisterAddress.sent_of_ofSent? known]
      | rx => exact not_heard step
  | _ => exact not_heard step

theorem extends_turning (step : (turning address register).hear command = some (ended, next))
    : Extends (selection address register ++ [.start]) command ended next := by
  cases command with
  | address again direction =>
      cases direction with
      | transmitter => exact not_heard step
      | receiver =>
          simp only [hear_receiver, Option.ite_none_right_eq_some] at step
          obtain ⟨rfl, same⟩ := step
          obtain ⟨rfl, rfl⟩ := Prod.mk.inj (Option.some.inj same)
          exact .goesOn (Heard.turned.of_eq (by simp [turnaround]))
  | _ => exact not_heard step

theorem extends_turned (step : (turned address register).hear command = some (ended, next))
    : Extends (selection address register ++ turnaround address) command ended next := by
  cases command with
  | ack enable =>
      cases enable with
      | false =>
          obtain ⟨rfl, rfl⟩ := Prod.mk.inj (Option.some.inj step)
          exact .goesOn (.reading (by simp))
      | true => exact not_heard step
  | arm stream length =>
      cases stream with
      | tx => exact not_heard step
      | rx =>
          obtain ⟨rfl, rfl⟩ := Prod.mk.inj (Option.some.inj step)
          exact .goesOn (.ending True.intro (by simp [WireFrame.commands, opening]))
  | _ => exact not_heard step

theorem extends_reading
    (parts
      : heard ++ left
        = selection address register ++ turnaround address ++ [.ack false, .clearAddress, .stop])
    (step : (reading address register left).hear command = some (ended, next))
    : Extends heard command ended next := by
  cases left with
  | nil =>
      cases command with
      | receive value =>
          obtain ⟨rfl, rfl⟩ := Prod.mk.inj (Option.some.inj step)
          rw [List.append_nil] at parts
          exact .goesOn (.ending True.intro (by simp [WireFrame.commands, parts]))
      | _ => exact not_heard step
  | cons expected left =>
      simp only [hear_reading, Option.ite_none_right_eq_some] at step
      obtain ⟨rfl, same⟩ := step
      obtain ⟨rfl, rfl⟩ := Prod.mk.inj (Option.some.inj same)
      exact .goesOn (.reading (by simpa using parts))

theorem extends_ending (addresses : frame.Addresses) (parts : heard ++ left = frame.commands)
    (step : (ending frame left).hear command = some (ended, next))
    : Extends heard command ended next := by
  cases left with
  | nil => exact not_heard step
  | cons expected left =>
      cases left with
      | nil =>
          simp only [hear_last, Option.ite_none_right_eq_some] at step
          obtain ⟨rfl, same⟩ := step
          obtain ⟨rfl, rfl⟩ := Prod.mk.inj (Option.some.inj same)
          exact .ends addresses parts
      | cons after left =>
          simp only [hear_ending, Option.ite_none_right_eq_some] at step
          obtain ⟨rfl, same⟩ := step
          obtain ⟨rfl, rfl⟩ := Prod.mk.inj (Option.some.inj same)
          exact .goesOn (.ending addresses (by simpa using parts))

/-- Every command that is heard belongs to a frame, by cases on what was heard of it before. -/
theorem Heard.hear {hearing : Hearing} (before : hearing.Heard heard)
    (step : hearing.hear command = some (ended, next))
    : Extends heard command ended next := by
  cases before with
  | nothing =>
      cases command with
      | start =>
          obtain ⟨rfl, rfl⟩ := Prod.mk.inj (Option.some.inj step)
          exact .goesOn .started
      | _ => exact not_heard step
  | started =>
      cases command with
      | address address direction =>
          cases direction with
          | transmitter =>
              obtain ⟨rfl, rfl⟩ := Prod.mk.inj (Option.some.inj step)
              exact .goesOn .addressed
          | receiver => exact not_heard step
      | _ => exact not_heard step
  | addressed => exact extends_addressed step
  | refused positive => exact extends_refused positive step
  | repeating => exact extends_repeating step
  | told => exact extends_told step
  | turning => exact extends_turning step
  | turned => exact extends_turned step
  | reading parts => exact extends_reading parts step
  | ending addresses parts => exact extends_ending addresses parts step

end Extensions

/-- What was listened to are the frames that were told and what was heard after them, by induction
over the commands.
-/
theorem Heard.listen {hearing last : Hearing} {heard said : List Command}
    {frames : List WireFrame} (before : hearing.Heard heard)
    (listened : hearing.listen said = some (frames, last))
    : (∀ frame ∈ frames, frame.Addresses)
      ∧ ∃ later,
          last.Heard later ∧ heard ++ said = frames.flatMap WireFrame.commands ++ later := by
  induction said generalizing hearing heard frames with
  | nil =>
      obtain ⟨rfl, rfl⟩ := Prod.mk.inj (Option.some.inj listened)
      exact ⟨by simp, heard, before, by simp⟩
  | cons command rest ih =>
      simp only [listen_cons, Option.bind_eq_some_iff, Option.map_eq_some_iff] at listened
      obtain ⟨⟨ended, next⟩, step, ⟨frames, _⟩, continued, same⟩ := listened
      obtain ⟨rfl, rfl⟩ := Prod.mk.inj same
      cases before.hear step with
      | goesOn more =>
          obtain ⟨addresses, later, final, whole⟩ := ih more continued
          exact ⟨addresses, later, final, by simpa using whole⟩
      | @ends frame addressed whole =>
          obtain ⟨addresses, later, final, others⟩ := ih .nothing continued
          refine ⟨?_, later, final, ?_⟩
          · intro other member
            rcases List.mem_cons.mp member with rfl | there
            · exact addressed
            · exact addresses other there
          · calc heard ++ command :: rest
              _ = heard ++ [command] ++ rest := by simp
              _ = frame.commands ++ (frames.flatMap WireFrame.commands ++ later) := by
                rw [whole, ← others, List.nil_append]
              _ = (frame :: frames).flatMap WireFrame.commands ++ later := by simp

end Hearing

/-- Commands are decoded exactly if they are whole frames one after the other. Of all frames that
sound the same those are told whose short register addresses have no high byte.
-/
theorem WireFrame.decode_eq_some_iff {commands : List Command} {frames : List WireFrame}
    : decode commands = some frames
      ↔ commands = frames.flatMap WireFrame.commands
        ∧ ∀ frame ∈ frames, frame.Addresses ∧ frame.onWire = frame := by
  constructor
  · intro decoded
    unfold decode at decoded
    split at decoded
    · rename_i told listened
      obtain rfl := Option.some.inj decoded
      obtain ⟨addresses, later, final, whole⟩ := Hearing.Heard.nothing.listen listened
      cases final
      have same := decode_commands addresses
      simp only [List.nil_append, List.append_nil] at whole
      rw [← whole, decode, listened] at same
      refine ⟨whole, fun frame member => ⟨addresses frame member, ?_⟩⟩
      exact List.map_eq_map_iff.mp ((Option.some.inj same).symm.trans (List.map_id _).symm) frame
        member
    · simp at decoded
  · rintro ⟨rfl, shape⟩
    have whole : frames.map onWire = frames :=
      (List.map_eq_map_iff.mpr fun frame member => (shape frame member).2).trans
        (List.map_id frames)
    rw [decode_commands fun frame member => (shape frame member).1, whole]

-----------------------------------------------------------------------------------------
-- What was said on a bus
-----------------------------------------------------------------------------------------

namespace Bench

/-- The wire can be decoded. Frames that are said one after the other are told again from their
commands, each with its kind, its slave, its register as far as it is sent, and its byte, its
length or its refusals. So no others sound the same, but for the high byte of short register
addresses, and what is no such sequence of frames is not decoded. And nothing but such frames is
ever said: in every run in which transfer-complete flags are raised by the end of transfers only,
and in which the records of a bus are not erased, what was said on the bus is told to be the frames
of the transactions that it served. Only what was begun of the last one comes after them, and only
while the bus is owned.
-/
theorem frames_decodable
    : (∀ frames : List WireFrame,
        (∀ frame ∈ frames, frame.Addresses)
        → decode (frames.flatMap commands) = some (frames.map onWire))
      ∧ (∀ frames others : List WireFrame,
        (∀ frame ∈ frames ++ others, frame.Addresses)
        → frames.flatMap commands = others.flatMap commands
        → frames.map onWire = others.map onWire)
      ∧ (∀ (said : List Command) (frames : List WireFrame),
        decode said = some frames
        ↔ said = frames.flatMap commands
          ∧ ∀ frame ∈ frames, frame.Addresses ∧ frame.onWire = frame)
      ∧ ∀ (capacity : Fin 255) (paces : PerBus (Option Pace)) (buffers : List (List UInt8))
          (sensors : List (Config × Nat)) (actions : List Action) (id : BusId)
          (peripheral : Peripheral),
        let start := assemble capacity paces buffers sensors
        let master := (start.run actions).2.master
        let bus := master.bus id
        Follows (fun _ action => action.Orderly ∧ action ≠ .forget id) start actions
        → master.peripheral? id = some peripheral
        → ∃ (done : List (Transaction × WireFrame)) (last : Option (Transaction × WireFrame))
            (said : List Command),
            bus.served = (done ++ last.toList).map Prod.fst
            ∧ (∀ entry ∈ done ++ last.toList, Bus.IsFramed master.slaves id entry)
            ∧ last.isSome = bus.isBusy
            ∧ peripheral.commands
              = (if bus.configured then [.configure] else [])
                ++ said
                ++ last.toList.flatMap (fun entry => entry.2.begun)
            ∧ decode said = some (done.map fun entry => entry.2.onWire) := by
  refine ⟨fun frames => decode_commands, fun frames others addresses same => ?_,
    fun said frames => decode_eq_some_iff, ?_⟩
  · have one := decode_commands fun frame member =>
      addresses frame (List.mem_append_left others member)
    have other := decode_commands fun frame member =>
      addresses frame (List.mem_append_right frames member)
    rw [same, other] at one
    exact (Option.some.inj one).symm
  · intro capacity paces buffers sensors actions id peripheral start master bus follows here
    obtain ⟨done, last, records, framed, unfinished⟩ :=
      (follows.wired (wired_assemble capacity paces buffers sensors id)).records here
    refine ⟨done, last, done.flatMap fun entry => entry.2.commands, records.served, framed,
      unfinished, records.commands, ?_⟩
    have addresses : ∀ frame ∈ done.map Prod.snd, frame.Addresses := by
      intro frame member
      obtain ⟨entry, inside, rfl⟩ := List.mem_map.mp member
      obtain ⟨slave, -, -, shape⟩ := records.framed entry inside
      exact shape.addresses
    have told := decode_commands addresses
    rw [List.flatMap_map, List.map_map] at told
    exact told

/-- Of a short register address the high byte is not told, of a long one it is. The same holds for
what was said in a run that writes one byte.
-/
theorem frames_decodable_after_write
    : let frames : List WireFrame :=
        [.writeByte 0x50 ⟨.bits8, 0x1234⟩ 7, .stream .read 0x50 ⟨.bits16, 0x1234⟩ 4,
          .probe 0x51 2 true]
      let actions : List Action :=
        [.register ⟨.i2c1, 0x50, .none⟩, .start (.writeByte ⟨0⟩ ⟨.bits8, 0x1234⟩ 7) none]
      let bench := ((assemble 2 ⟨some .instant, none, none⟩ [] []).run actions).2
      decode (frames.flatMap commands)
        = some
          [.writeByte 0x50 ⟨.bits8, 0x34⟩ 7, .stream .read 0x50 ⟨.bits16, 0x1234⟩ 4,
            .probe 0x51 2 true]
      ∧ ∃ peripheral said,
          bench.master.peripheral? .i2c1 = some peripheral
          ∧ peripheral.commands = [.configure] ++ said
          ∧ decode said = some [.writeByte 0x50 ⟨.bits8, 0x34⟩ 7] := by
  intro frames actions bench
  obtain ⟨decodes, -, -, runs⟩ := frames_decodable
  refine ⟨decodes frames (by decide), ?_⟩
  have follows
      : Follows (fun _ action => action.Orderly ∧ action ≠ .forget .i2c1)
          (assemble 2 ⟨some .instant, none, none⟩ [] []) actions :=
    ⟨⟨True.intro, by simp⟩, ⟨True.intro, by simp⟩, True.intro⟩
  obtain ⟨peripheral, here⟩ : ∃ peripheral, bench.master.peripheral? .i2c1 = some peripheral :=
    ⟨_, rfl⟩
  obtain ⟨done, last, said, served, framed, unfinished, commands, told⟩ :=
    runs _ _ _ _ _ _ _ follows here
  -- the bus is idle again, so the frame of the only transaction is whole
  have idle : last.isSome = false := unfinished.trans (by decide +kernel)
  obtain rfl : last = none := by simpa using idle
  have ledger : (bench.master.bus .i2c1).served = [.writeByte ⟨0⟩ ⟨.bits8, 0x1234⟩ 7] := by
    decide +kernel
  obtain ⟨frame, rfl⟩ : ∃ frame, done = [(.writeByte ⟨0⟩ ⟨.bits8, 0x1234⟩ 7, frame)] := by
    simpa using served.symm.trans ledger
  have known : bench.master.slaves.get? ⟨0⟩ = some ⟨.i2c1, 0x50, .none⟩ := rfl
  obtain ⟨slave, found, -, shape⟩ := framed _ (List.mem_append_left _ (List.mem_singleton_self _))
  obtain rfl := Option.some.inj (known.symm.trans found)
  cases shape
  have up : (bench.master.bus .i2c1).configured = true := by decide +kernel
  rw [if_pos up] at commands
  exact ⟨peripheral, said, here, by simpa using commands, told⟩

end Bench

end TwoWire
