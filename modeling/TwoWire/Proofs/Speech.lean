import TwoWire.Proofs.WireFrame

/-! What is said to a peripheral, access by access and frame by frame.

Every command is recorded in the trace and, while there is room, in the log. Questions say
nothing, so a wait leaves both records alone however long it takes. Only arming a stream and the
transfer-complete flags change what the streams are at.
-/

namespace TwoWire

/-- What the streams of a peripheral are at. -/
structure StreamState where
  armed : Option (Stream × Window)
  txComplete : Bool
  rxComplete : Bool
deriving DecidableEq

namespace StreamState

def quiet : StreamState := ⟨none, false, false⟩

/-- A transfer is armed and goes on. -/
def running (stream : Stream) (window : Window) : StreamState :=
  ⟨some (stream, window), false, false⟩

/-- A transfer has completed and its flag was not read yet. -/
def finished (stream : Stream) : StreamState :=
  ⟨none, stream = .tx, stream = .rx⟩

/-- The transfer-complete flag of a stream. -/
def completed (streams : StreamState) : Stream → Bool
  | .tx => streams.txComplete
  | .rx => streams.rxComplete

theorem completed_running (stream other : Stream) (window : Window)
    : (running stream window).completed other = false := by
  cases other <;> rfl

theorem completed_finished (stream other : Stream)
    : (finished stream).completed other = decide (stream = other) := by
  cases other <;> rfl

end StreamState

namespace Peripheral

open WireFrame

def streams (peripheral : Peripheral) : StreamState :=
  ⟨peripheral.armed, peripheral.txComplete, peripheral.rxComplete⟩

theorem completed_streams (peripheral : Peripheral) (stream : Stream)
    : peripheral.streams.completed stream = peripheral.completed stream := by
  cases stream <;> rfl

/-- Between two states these commands were said, and the streams were left in a given state. The
log takes as many of the commands as it has room for.
-/
structure Leaves (before : Peripheral) (said : List Command) (streams : StreamState)
    (after : Peripheral)
    : Prop where
  commands : after.commands = before.commands ++ said
  log : after.log = before.log ++ said.take (logCapacity - before.log.length)
  streams : after.streams = streams

/-- These commands were said and the streams were left alone. -/
abbrev Says (before : Peripheral) (said : List Command) (after : Peripheral) : Prop :=
  before.Leaves said before.streams after

-----------------------------------------------------------------------------------------
-- One thing said after the other
-----------------------------------------------------------------------------------------

theorem says_nothing (peripheral : Peripheral)
    : peripheral.Says [] peripheral where
  commands := (List.append_nil _).symm
  log := by simp
  streams := rfl

/-- What is said in two parts is said in all. The log fills up once, in the first part or in the
second, so it takes the same commands of the whole as of the parts.
-/
theorem Leaves.trans {before middle after : Peripheral} {first second : List Command}
    {streams last : StreamState}
    (head : before.Leaves first streams middle) (tail : middle.Leaves second last after)
    : before.Leaves (first ++ second) last after where
  commands := by rw [tail.commands, head.commands, List.append_assoc]
  log := by
    have room : logCapacity - middle.log.length
        = logCapacity - before.log.length - first.length := by
      rw [head.log, List.length_append, List.length_take]
      omega
    rw [tail.log, room, head.log, List.append_assoc, List.take_append]
  streams := tail.streams

/-- What is said afterwards without touching the streams leaves them where they were. -/
theorem Leaves.andSays {before middle after : Peripheral} {first second : List Command}
    {streams : StreamState}
    (head : before.Leaves first streams middle) (tail : middle.Says second after)
    : before.Leaves (first ++ second) streams after :=
  head.streams ▸ head.trans tail

/-- A peripheral whose log was filled from the trace keeps such a log. -/
theorem Leaves.log_eq_take {before after : Peripheral} {said : List Command}
    {streams : StreamState} (step : before.Leaves said streams after)
    (faithful : before.log = before.commands.take logCapacity)
    : after.log = after.commands.take logCapacity := by
  have room : logCapacity - before.log.length = logCapacity - before.commands.length := by
    rw [faithful, List.length_take]
    omega
  rw [step.log, step.commands, List.take_append, ← faithful, room]

-----------------------------------------------------------------------------------------
-- Commands
-----------------------------------------------------------------------------------------

theorem says_issue (peripheral : Peripheral) (command : Command)
    : peripheral.Says [command] (peripheral.issue command) where
  commands := by simp [commands, issue, Access.command?]
  log := by
    by_cases room : peripheral.log.length < logCapacity
    · have left : 1 ≤ logCapacity - peripheral.log.length := by omega
      simp [issue, room, List.take_of_length_le, left]
    · have full : logCapacity - peripheral.log.length = 0 := by omega
      simp [issue, room, full]
  streams := rfl

/-- An address is said whatever is answered to it; the answer is kept outside of the records. -/
theorem says_sendAddress (peripheral : Peripheral) (address : UInt8) (direction : Direction)
    : peripheral.Says [.address address direction] (peripheral.sendAddress address direction) :=
  let said := peripheral.says_issue (.address address direction)
  ⟨said.commands, said.log, rfl⟩

theorem says_receive (peripheral : Peripheral)
    : peripheral.Says [.receive peripheral.receive.1] peripheral.receive.2 :=
  let said := peripheral.says_issue (.receive peripheral.receive.1)
  ⟨said.commands, said.log, rfl⟩

theorem says_clearAddress (peripheral : Peripheral)
    : peripheral.Says [.clearAddress] peripheral.clearAddress :=
  let said := peripheral.says_issue .clearAddress
  ⟨said.commands, said.log, rfl⟩

theorem says_clearAckFailure (peripheral : Peripheral)
    : peripheral.Says [.clearAckFailure] peripheral.clearAckFailure :=
  let said := peripheral.says_issue .clearAckFailure
  ⟨said.commands, said.log, rfl⟩

theorem leaves_arm (peripheral : Peripheral) (stream : Stream) (window : Window)
    : peripheral.Leaves [.arm stream window.length]
        { peripheral.streams with armed := some (stream, window) }
        (peripheral.arm stream window) :=
  let said := peripheral.says_issue (.arm stream window.length)
  ⟨said.commands, said.log, rfl⟩

-----------------------------------------------------------------------------------------
-- Questions and waits
-----------------------------------------------------------------------------------------

/-- An access that gives no command is in the trace, but not among its commands. -/
theorem says_observe (peripheral : Peripheral) (access : Access)
    (question : access.command? = none)
    : peripheral.Says [] (peripheral.observe access) where
  commands := by simp [commands, observe, question]
  log := by simp [observe]
  streams := rfl

theorem says_askReady (peripheral : Peripheral) (record : Bool → Access)
    (question : ∀ seen, (record seen).command? = none)
    : peripheral.Says [] (peripheral.askReady record).2 :=
  let said := peripheral.says_observe _ (question peripheral.pace.ready.1)
  ⟨said.commands, said.log, said.streams⟩

theorem says_askEvent (peripheral : Peripheral) (event : Event)
    : peripheral.Says [] (peripheral.askEvent event).2 :=
  peripheral.says_askReady (.event event) fun _ => rfl

theorem says_askStopHeld (peripheral : Peripheral)
    : peripheral.Says [] peripheral.askStopHeld.2 :=
  peripheral.says_askReady (fun released => .stopHeld (!released)) fun _ => rfl

theorem says_askFlag (peripheral : Peripheral) (flag : Flag)
    : peripheral.Says [] (peripheral.askFlag flag).2 := by
  cases flag with
  | byteTransferFinished => exact peripheral.says_askReady _ fun _ => rfl
  | rxNotEmpty => exact peripheral.says_askReady _ fun _ => rfl
  | addressSent => exact peripheral.says_observe _ rfl
  | acknowledgeFailure =>
      have said := peripheral.says_observe
        (.flag .acknowledgeFailure (peripheral.askFlag .acknowledgeFailure).1) rfl
      exact ⟨said.commands, said.log, said.streams⟩

/-- Whether or not the second question is asked, neither says anything. -/
theorem says_askAnswered (peripheral : Peripheral)
    : peripheral.Says [] peripheral.askAnswered.2 := by
  unfold askAnswered
  dsimp only
  split
  · exact peripheral.says_askFlag .addressSent
  · exact (peripheral.says_askFlag .addressSent).trans (says_askFlag _ _)

/-- A wait says as little as its question, by induction over the refusals. -/
theorem says_askUntil {ask : Peripheral → Bool × Peripheral}
    (question : ∀ peripheral : Peripheral, peripheral.Says [] (ask peripheral).2)
    (refusals : Nat) (peripheral : Peripheral)
    : peripheral.Says [] (askUntil ask refusals peripheral) := by
  induction refusals generalizing peripheral with
  | zero => exact question peripheral
  | succ refusals ih =>
      simp only [askUntil]
      split
      · exact question peripheral
      · exact (question peripheral).andSays (ih _)

theorem says_awaitEvent (peripheral : Peripheral) (event : Event)
    : peripheral.Says [] (peripheral.awaitEvent event) :=
  says_askUntil (says_askEvent · event) _ _

theorem says_awaitFlag (peripheral : Peripheral) (flag : Flag)
    : peripheral.Says [] (peripheral.awaitFlag flag) :=
  says_askUntil (says_askFlag · flag) _ _

theorem says_awaitStop (peripheral : Peripheral)
    : peripheral.Says [] peripheral.awaitStop := by
  have question (current : Peripheral)
      : current.Says [] (current.askStopHeld.map (!·) id).2 :=
    current.says_askStopHeld
  exact says_askUntil question _ _

theorem says_awaitAnswer (peripheral : Peripheral)
    : peripheral.Says [] peripheral.awaitAnswer :=
  says_askUntil says_askAnswered _ _

/-- Flags of the streams are no part of the records. -/
theorem leaves_setCompleted (peripheral : Peripheral) (stream : Stream) (value : Bool)
    : peripheral.Leaves [] (peripheral.setCompleted stream value).streams
        (peripheral.setCompleted stream value) where
  commands := by cases stream <;> exact (List.append_nil _).symm
  log := by cases stream <;> simp [setCompleted]
  streams := rfl

theorem leaves_takeCompleted (peripheral : Peripheral) (stream : Stream)
    : peripheral.Leaves [] (peripheral.setCompleted stream false).streams
        (peripheral.takeCompleted stream).2 :=
  (peripheral.leaves_setCompleted stream false).andSays (says_observe _ _ rfl)

/-- A transfer ends without a word: it is no longer armed, and its flag is raised. -/
theorem leaves_land (peripheral : Peripheral) (stream : Stream)
    : peripheral.Leaves [] ({ peripheral with armed := none }.setCompleted stream true).streams
        ({ peripheral with armed := none }.setCompleted stream true) := by
  have landed := leaves_setCompleted { peripheral with armed := none } stream true
  exact ⟨landed.commands, landed.log, landed.streams⟩

/-- What slaves will answer is no part of the records. -/
theorem says_arrange (peripheral : Peripheral) (arrangement : Arrangement)
    : peripheral.Says [] (peripheral.arrange arrangement) where
  commands := (List.append_nil _).symm
  log := by simp [arrange]
  streams := rfl

-----------------------------------------------------------------------------------------
-- Frames
-----------------------------------------------------------------------------------------

/-- A slave is addressed for sending and told the register, by cases on the width. -/
theorem says_sendRegister (peripheral : Peripheral) (address : UInt8)
    (register : RegisterAddress)
    : peripheral.Says (selection address register)
        (peripheral.sendRegister address register) := by
  have addressed : peripheral.Says [.start, .address address .transmitter]
      (((peripheral.start.awaitEvent .masterModeSelect).sendAddress address .transmitter).awaitEvent
        .transmitterModeSelected) :=
    (((peripheral.says_issue .start).andSays (says_awaitEvent _ _)).andSays
      (says_sendAddress _ _ _)).andSays (says_awaitEvent _ _)
  obtain ⟨width, number⟩ := register
  cases width with
  | bits8 => exact addressed.andSays (says_issue _ _)
  | bits16 =>
      exact ((addressed.andSays (says_issue _ _)).andSays (says_awaitEvent _ _)).andSays
        (says_issue _ _)

theorem says_readdress (peripheral : Peripheral) (address : UInt8)
    : peripheral.Says (turnaround address) (peripheral.readdress address) :=
  (((peripheral.says_issue .start).andSays (says_awaitEvent _ _)).andSays
    (says_sendAddress _ _ _)).andSays (says_awaitEvent _ _)

/-- Reading one register says the whole frame, with the byte that is answered. -/
theorem says_readRegister (peripheral : Peripheral) (address : UInt8)
    (register : RegisterAddress)
    : peripheral.Says
        (WireFrame.readByte address register
          (peripheral.readRegister address register).1).commands
        (peripheral.readRegister address register).2 := by
  have selected := (peripheral.says_sendRegister address register).andSays
    (says_awaitEvent _ .byteTransmitted)
  have turned := selected.andSays (says_readdress _ address)
  have refused := (turned.andSays (says_issue _ (.ack false))).andSays (says_clearAddress _)
  have queued := (refused.andSays (says_issue _ .stop)).andSays (says_awaitFlag _ .rxNotEmpty)
  have received := (queued.andSays (says_receive _)).andSays (says_awaitStop _)
  have frame := received.andSays (says_issue _ (.ack true))
  simp only [WireFrame.commands, List.append_assoc, List.cons_append, List.nil_append] at frame ⊢
  exact frame

theorem says_writeRegister (peripheral : Peripheral) (address : UInt8)
    (register : RegisterAddress) (value : UInt8)
    : peripheral.Says (WireFrame.writeByte address register value).commands
        (peripheral.writeRegister address register value) := by
  have selected := (peripheral.says_sendRegister address register).andSays
    (says_awaitEvent _ .byteTransmitted)
  have sent := (selected.andSays (says_issue _ (.send value))).andSays
    (says_awaitEvent _ .byteTransmitted)
  have frame := sent.andSays (says_issue _ .stop)
  simp only [WireFrame.commands, List.append_assoc, List.cons_append, List.nil_append] at frame ⊢
  exact frame

/-- Opening a reception says its part of the frame and leaves the window armed. -/
theorem leaves_openRead (peripheral : Peripheral) (address : UInt8)
    (register : RegisterAddress) (window : Window)
    : peripheral.Leaves (opening .read address register window.length)
        { peripheral.streams with armed := some (.rx, window) }
        (peripheral.openRead address register window) := by
  have selected := (peripheral.says_sendRegister address register).andSays
    (says_awaitFlag _ .byteTransferFinished)
  have turned := selected.andSays (says_readdress _ address)
  have armed := turned.trans (leaves_arm _ .rx window)
  have opened := (armed.andSays (says_issue _ (.lastTransfer true))).andSays
    (says_issue _ (.dmaRequests true))
  rw [turned.streams] at opened
  simp only [opening, List.append_assoc, List.cons_append, List.nil_append] at opened ⊢
  exact opened

/-- Opening a transmission says its part of the frame and leaves the window armed. -/
theorem leaves_openWrite (peripheral : Peripheral) (address : UInt8)
    (register : RegisterAddress) (window : Window)
    : peripheral.Leaves (opening .write address register window.length)
        { peripheral.streams with armed := some (.tx, window) }
        (peripheral.openWrite address register window) := by
  have selected := (peripheral.says_sendRegister address register).andSays
    (says_awaitEvent _ .byteTransmitting)
  have armed := selected.trans (leaves_arm _ .tx window)
  have opened := armed.andSays (says_issue _ (.dmaRequests true))
  rw [selected.streams] at opened
  simp only [opening, List.append_assoc, List.cons_append, List.nil_append] at opened ⊢
  exact opened

/-- Closing a frame says what was left of it, by cases on the kind of transfer. -/
theorem says_closeFrame (peripheral : Peripheral) (kind : TransferKind)
    : peripheral.Says (closing kind) (peripheral.closeFrame kind.stream) := by
  cases kind with
  | read =>
      exact (((peripheral.says_issue .stop).andSays (says_issue _ (.disable .rx))).andSays
        (says_issue _ (.dmaRequests false))).andSays (says_issue _ (.ack true))
  | write =>
      exact (((peripheral.says_issue (.disable .tx)).andSays
        (says_issue _ (.dmaRequests false))).andSays (says_awaitFlag _ _)).andSays
        (says_issue _ .stop)

end Peripheral

-----------------------------------------------------------------------------------------
-- What was said on a bus
-----------------------------------------------------------------------------------------

namespace Master

/-- The commands that were given on a bus on the way to a later state of its master. -/
def saidUntil (master later : Master) (id : BusId) : List Command :=
  match master.peripheral? id, later.peripheral? id with
  | some before, some after => after.commands.drop before.commands.length
  | _, _ => []

theorem saidUntil_of_commands {master later : Master} {id : BusId} {before after : Peripheral}
    {said : List Command} (here : master.peripheral? id = some before)
    (there : later.peripheral? id = some after)
    (commands : after.commands = before.commands ++ said)
    : master.saidUntil later id = said := by
  simp [saidUntil, here, there, commands]

end Master

end TwoWire
