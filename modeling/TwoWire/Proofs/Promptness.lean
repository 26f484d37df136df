import TwoWire.Peripheral.Frame
import TwoWire.Peripheral.Manual

/-! Peripherals that answer late, next to those that answer at once.

A question about the status changes nothing but the pace and the trace, whether it is granted or
refused, and every wait comes to its end. So commands, frames and probes do the same however late
the waits in them are granted.
-/

namespace TwoWire

/-- The access asks for a status, which a peripheral may be late to show. -/
def Access.isQuestion : Access → Bool
  | event .. | flag .. | stopHeld _ => true
  | command _ | completed .. => false

/-- The access by hand asks for a status, which a peripheral may be late to show. -/
def ManualAccess.isQuestion : ManualAccess → Bool
  | stopHeld | event _ | flag _ => true
  | _ => false

namespace Peripheral

/-- The accesses made, without the questions about the status. -/
def deeds (peripheral : Peripheral) : List Access :=
  peripheral.trace.filter fun access => !access.isQuestion

/-- Two peripherals differ in nothing but their pace and the questions that they were asked. -/
structure Matches (peripheral other : Peripheral) : Prop where
  log : peripheral.log = other.log
  deeds : peripheral.deeds = other.deeds
  armed : peripheral.armed = other.armed
  txComplete : peripheral.txComplete = other.txComplete
  rxComplete : peripheral.rxComplete = other.rxComplete
  address : peripheral.address = other.address
  script : peripheral.script = other.script

variable {peripheral middle other : Peripheral}

theorem Matches.refl (peripheral : Peripheral)
    : peripheral.Matches peripheral :=
  ⟨rfl, rfl, rfl, rfl, rfl, rfl, rfl⟩

theorem Matches.symm (same : peripheral.Matches other)
    : other.Matches peripheral :=
  ⟨same.log.symm, same.deeds.symm, same.armed.symm, same.txComplete.symm,
    same.rxComplete.symm, same.address.symm, same.script.symm⟩

theorem Matches.trans (head : peripheral.Matches middle) (tail : middle.Matches other)
    : peripheral.Matches other :=
  ⟨head.log.trans tail.log, head.deeds.trans tail.deeds, head.armed.trans tail.armed,
    head.txComplete.trans tail.txComplete, head.rxComplete.trans tail.rxComplete,
    head.address.trans tail.address, head.script.trans tail.script⟩

theorem matches_new (pace another : Pace)
    : (new pace).Matches (new another) :=
  ⟨rfl, rfl, rfl, rfl, rfl, rfl, rfl⟩

/-- No question is a command. -/
theorem commands_eq_deeds (peripheral : Peripheral)
    : peripheral.commands = peripheral.deeds.filterMap Access.command? := by
  simp only [commands, deeds, List.filterMap_filter]
  congr 1
  funext access
  cases access <;> rfl

theorem Matches.commands (same : peripheral.Matches other)
    : peripheral.commands = other.commands := by
  rw [commands_eq_deeds, commands_eq_deeds, same.deeds]

theorem Matches.completed (same : peripheral.Matches other) (stream : Stream)
    : peripheral.completed stream = other.completed stream := by
  cases stream with
  | tx => exact same.txComplete
  | rx => exact same.rxComplete

-----------------------------------------------------------------------------------------
-- Commands
-----------------------------------------------------------------------------------------

theorem deeds_observe (peripheral : Peripheral) (access : Access)
    : (peripheral.observe access).deeds
      = peripheral.deeds ++ [access].filter fun access => !access.isQuestion :=
  List.filter_append ..

theorem Matches.observe (same : peripheral.Matches other) (access : Access)
    : (peripheral.observe access).Matches (other.observe access) :=
  { same with deeds := by rw [deeds_observe, deeds_observe, same.deeds] }

theorem Matches.issue (same : peripheral.Matches other) (command : Command)
    : (peripheral.issue command).Matches (other.issue command) :=
  { same.observe (.command command) with log := by simp only [Peripheral.issue, same.log] }

theorem Matches.sendAddress (same : peripheral.Matches other) (address : UInt8)
    (direction : Direction)
    : (peripheral.sendAddress address direction).Matches
        (other.sendAddress address direction) :=
  { same.issue (.address address direction) with
    address := by simp only [Peripheral.sendAddress, same.script]
    script := by simp only [Peripheral.sendAddress, same.script] }

theorem Matches.receive (same : peripheral.Matches other)
    : peripheral.receive.1 = other.receive.1 ∧ peripheral.receive.2.Matches other.receive.2 := by
  have value : peripheral.script.nextByte = other.script.nextByte := by rw [same.script]
  simp only [Peripheral.receive, value, true_and]
  exact { same.issue (.receive other.script.nextByte.1) with script := rfl }

theorem Matches.clearAddress (same : peripheral.Matches other)
    : peripheral.clearAddress.Matches other.clearAddress :=
  { same.issue .clearAddress with address := by simp only [Peripheral.clearAddress, same.address] }

theorem Matches.clearAckFailure (same : peripheral.Matches other)
    : peripheral.clearAckFailure.Matches other.clearAckFailure :=
  { same.issue .clearAckFailure with
    address := by simp only [Peripheral.clearAckFailure, same.address] }

theorem Matches.arm (same : peripheral.Matches other) (stream : Stream) (window : Window)
    : (peripheral.arm stream window).Matches (other.arm stream window) :=
  { same.issue (.arm stream window.length) with armed := rfl }

theorem Matches.setCompleted (same : peripheral.Matches other) (stream : Stream) (value : Bool)
    : (peripheral.setCompleted stream value).Matches (other.setCompleted stream value) := by
  cases stream with
  | tx => exact { same with txComplete := rfl }
  | rx => exact { same with rxComplete := rfl }

theorem Matches.takeCompleted (same : peripheral.Matches other) (stream : Stream)
    : (peripheral.takeCompleted stream).1 = (other.takeCompleted stream).1
      ∧ (peripheral.takeCompleted stream).2.Matches (other.takeCompleted stream).2 := by
  refine ⟨same.completed stream, ?_⟩
  simp only [Peripheral.takeCompleted, same.completed stream]
  exact (same.setCompleted stream false).observe _

-----------------------------------------------------------------------------------------
-- Questions
-----------------------------------------------------------------------------------------

/-- A question is seen in the trace only, and the pace may go on meanwhile. -/
theorem matches_observe (peripheral : Peripheral) (pace : Pace) {access : Access}
    (question : access.isQuestion = true)
    : ({ peripheral with pace }.observe access).Matches peripheral :=
  { Matches.refl peripheral with
    deeds := by
      rw [deeds_observe]
      simp [question, deeds] }

theorem matches_askReady (peripheral : Peripheral) {record : Bool → Access}
    (question : ∀ seen, (record seen).isQuestion = true)
    : (peripheral.askReady record).2.Matches peripheral :=
  peripheral.matches_observe _ (question _)

theorem matches_askStopHeld (peripheral : Peripheral)
    : peripheral.askStopHeld.2.Matches peripheral := by
  change (peripheral.askReady fun released => .stopHeld (!released)).2.Matches peripheral
  exact peripheral.matches_askReady fun _ => rfl

theorem matches_askFlag (peripheral : Peripheral) (flag : Flag)
    : (peripheral.askFlag flag).2.Matches peripheral := by
  cases flag with
  | byteTransferFinished | rxNotEmpty => exact peripheral.matches_askReady fun _ => rfl
  | addressSent => exact peripheral.matches_observe peripheral.pace rfl
  | acknowledgeFailure => exact peripheral.matches_observe peripheral.pace.settleOnce rfl

theorem matches_askAnswered (peripheral : Peripheral)
    : peripheral.askAnswered.2.Matches peripheral := by
  have sent := peripheral.matches_askFlag .addressSent
  unfold askAnswered
  split
  rename_i acknowledged next asked
  rw [asked] at sent
  split
  · exact sent
  · exact (next.matches_askFlag .acknowledgeFailure).trans sent

-----------------------------------------------------------------------------------------
-- Waits
-----------------------------------------------------------------------------------------

/-- Asking again and again until the answer is yes, however often that is. -/
inductive Waits (ask : Peripheral → Bool × Peripheral) : Peripheral → Peripheral → Prop where
  | granted {before after} (seen : ask before = (true, after)) : Waits ask before after
  | refused {before next after} (unseen : ask before = (false, next))
    (rest : Waits ask next after)
    : Waits ask before after

/-- What is asked for is granted after a number of refusals, and each refusal uses up one of them.
-/
structure Ends (ask : Peripheral → Bool × Peripheral) (left : Peripheral → Nat)
    (fit : Peripheral → Prop)
    : Prop where
  last : ∀ {current}, fit current → left current = 0 → (ask current).1 = true
  more
    : ∀ {current rest},
        fit current
        → left current = rest + 1
        → (ask current).1 = false ∧ left (ask current).2 = rest ∧ fit (ask current).2

/-- Asking once more than the number of refusals is the whole wait, by induction on this number. -/
theorem Ends.waits {ask : Peripheral → Bool × Peripheral} {left : Peripheral → Nat}
    {fit : Peripheral → Prop} (ends : Ends ask left fit) {refusals : Nat} (fits : fit peripheral)
    (count : left peripheral = refusals)
    : Waits ask peripheral (askUntil ask refusals peripheral) := by
  induction refusals generalizing peripheral with
  | zero => exact .granted (Prod.ext (ends.last fits count) rfl)
  | succ rest ih =>
      obtain ⟨unseen, fewer, still⟩ := ends.more fits count
      simp only [askUntil, unseen, Bool.false_eq_true, if_false]
      exact .refused (Prod.ext unseen rfl) (ih still fewer)

/-- A wait in which every question leaves all that matters alone does so, by induction on it. -/
theorem Waits.matches {ask : Peripheral → Bool × Peripheral} {after : Peripheral}
    (waits : Waits ask peripheral after)
    (asks : ∀ current : Peripheral, (ask current).2.Matches current)
    : after.Matches peripheral := by
  induction waits with
  | @granted before _ seen =>
      have same := asks before
      rwa [seen] at same
  | @refused before _ _ unseen _ ih =>
      have same := asks before
      rw [unseen] at same
      exact ih.trans same

theorem ends_askReady (record : Bool → Access)
    : Ends (askReady · record) (fun current => current.pace.pending) (fun _ => True) where
  last _ none := Pace.ready_of_pending_eq_zero none
  more _ some := ⟨(Pace.pending_ready some).1, (Pace.pending_ready some).2, True.intro⟩

/-- Every question about an address lets it settle, until it has settled. -/
theorem settling_askAnswered (peripheral : Peripheral)
    : peripheral.askAnswered.2.pace.settling = peripheral.pace.settling - 1 := by
  unfold askAnswered
  by_cases seen : peripheral.pace.settling = 0 ∧ peripheral.address = .acknowledged
  · simp [askFlag, seen, observe]
  · simp [askFlag, seen, observe, Pace.settleOnce]

/-- The wait for an answer to an address is over when the address has settled. -/
theorem ends_askAnswered
    : Ends askAnswered (fun current => current.pace.settling)
        (fun current => current.address ≠ .idle) where
  last {current} busy settled := by
    cases answer : current.address with
    | idle => exact absurd answer busy
    | acknowledged | refused => simp [askAnswered, askFlag, observe, settled, answer]
  more {current rest} busy unsettled := by
    refine ⟨?_, ?_, ?_⟩
    · simp [askAnswered, askFlag, observe, unsettled]
    · rw [settling_askAnswered, unsettled]
      rfl
    · rwa [current.matches_askAnswered.address]

theorem waits_awaitEvent (peripheral : Peripheral) (event : Event)
    : Waits (askEvent · event) peripheral (peripheral.awaitEvent event) :=
  (ends_askReady _).waits True.intro rfl

theorem waits_awaitFlag (peripheral : Peripheral) {flag : Flag}
    (plain : flag = .byteTransferFinished ∨ flag = .rxNotEmpty)
    : Waits (askFlag · flag) peripheral (peripheral.awaitFlag flag) := by
  rcases plain with rfl | rfl <;> exact (ends_askReady _).waits True.intro rfl

/-- Waiting for a stop condition is asking until it is no longer held. -/
theorem waits_awaitStop (peripheral : Peripheral)
    : Waits (fun current => current.askStopHeld.map (!·) id) peripheral peripheral.awaitStop := by
  have same
      : (fun current : Peripheral => current.askStopHeld.map (!·) id)
        = (askReady · fun released => .stopHeld (!released)) := by
    funext current
    simp [askStopHeld, Prod.map]
  rw [awaitStop, same]
  exact (ends_askReady _).waits True.intro rfl

/-- A sent address is answered as the script has it. -/
theorem address_sendAddress (peripheral : Peripheral) (address : UInt8) (direction : Direction)
    : (peripheral.sendAddress address direction).address
      = if peripheral.script.refuses direction then .refused else .acknowledged := by
  unfold sendAddress Script.address
  cases peripheral.script.refuses direction <;> rfl

theorem waits_awaitAnswer (peripheral : Peripheral) (address : UInt8) (direction : Direction)
    : Waits askAnswered (peripheral.sendAddress address direction)
        (peripheral.sendAddress address direction).awaitAnswer := by
  refine ends_askAnswered.waits ?_ rfl
  rw [address_sendAddress]
  split <;> simp

theorem matches_awaitEvent (peripheral : Peripheral) (event : Event)
    : (peripheral.awaitEvent event).Matches peripheral :=
  (peripheral.waits_awaitEvent event).matches fun current =>
    current.matches_askReady fun _ => rfl

theorem matches_awaitFlag (peripheral : Peripheral) {flag : Flag}
    (plain : flag = .byteTransferFinished ∨ flag = .rxNotEmpty)
    : (peripheral.awaitFlag flag).Matches peripheral :=
  (peripheral.waits_awaitFlag plain).matches fun current => current.matches_askFlag flag

theorem matches_awaitStop (peripheral : Peripheral)
    : peripheral.awaitStop.Matches peripheral :=
  peripheral.waits_awaitStop.matches matches_askStopHeld

theorem matches_awaitAnswer (peripheral : Peripheral) (address : UInt8) (direction : Direction)
    : (peripheral.sendAddress address direction).awaitAnswer.Matches
        (peripheral.sendAddress address direction) :=
  (peripheral.waits_awaitAnswer address direction).matches matches_askAnswered

/-- Two peripherals still match when each of them has waited. -/
theorem Matches.waited {after last : Peripheral} (same : peripheral.Matches other)
    (left : after.Matches peripheral) (right : last.Matches other)
    : after.Matches last :=
  left.trans (same.trans right.symm)

theorem Matches.awaitEvent (same : peripheral.Matches other) (event : Event)
    : (peripheral.awaitEvent event).Matches (other.awaitEvent event) :=
  same.waited (peripheral.matches_awaitEvent event) (other.matches_awaitEvent event)

theorem Matches.awaitFlag (same : peripheral.Matches other) {flag : Flag}
    (plain : flag = .byteTransferFinished ∨ flag = .rxNotEmpty)
    : (peripheral.awaitFlag flag).Matches (other.awaitFlag flag) :=
  same.waited (peripheral.matches_awaitFlag plain) (other.matches_awaitFlag plain)

-----------------------------------------------------------------------------------------
-- Frames
-----------------------------------------------------------------------------------------

theorem Matches.sendRegister (same : peripheral.Matches other) (address : UInt8)
    (register : RegisterAddress)
    : (peripheral.sendRegister address register).Matches
        (other.sendRegister address register) := by
  have addressed :=
    (((same.issue .start).awaitEvent .masterModeSelect).sendAddress address
      .transmitter).awaitEvent .transmitterModeSelected
  unfold Peripheral.sendRegister
  cases register.width with
  | bits8 => exact addressed.issue (.send register.low)
  | bits16 =>
      exact ((addressed.issue (.send register.high)).awaitEvent .byteTransmitted).issue
        (.send register.low)

theorem Matches.readdress (same : peripheral.Matches other) (address : UInt8)
    : (peripheral.readdress address).Matches (other.readdress address) :=
  (((same.issue .start).awaitEvent .masterModeSelect).sendAddress address .receiver).awaitEvent
    .receiverModeSelected

theorem Matches.readRegister (same : peripheral.Matches other) (address : UInt8)
    (register : RegisterAddress)
    : (peripheral.readRegister address register).1 = (other.readRegister address register).1
      ∧ (peripheral.readRegister address register).2.Matches
          (other.readRegister address register).2 := by
  have turned :=
    ((same.sendRegister address register).awaitEvent .byteTransmitted).readdress address
  have queued := ((turned.issue (.ack false)).clearAddress).issue .stop
  obtain ⟨value, received⟩ := (queued.awaitFlag (.inr rfl)).receive
  have released := received.waited (matches_awaitStop _) (matches_awaitStop _)
  unfold Peripheral.readRegister enableAck stop
  dsimp only
  exact ⟨value, released.issue (.ack true)⟩

theorem Matches.writeRegister (same : peripheral.Matches other) (address : UInt8)
    (register : RegisterAddress) (value : UInt8)
    : (peripheral.writeRegister address register value).Matches
        (other.writeRegister address register value) := by
  have selected := (same.sendRegister address register).awaitEvent .byteTransmitted
  exact ((selected.issue (.send value)).awaitEvent .byteTransmitted).issue .stop

theorem Matches.openRead (same : peripheral.Matches other) (address : UInt8)
    (register : RegisterAddress) (window : Window)
    : (peripheral.openRead address register window).Matches
        (other.openRead address register window) := by
  have turned := ((same.sendRegister address register).awaitFlag (.inl rfl)).readdress address
  exact ((turned.arm .rx window).issue (.lastTransfer true)).issue (.dmaRequests true)

theorem Matches.openWrite (same : peripheral.Matches other) (address : UInt8)
    (register : RegisterAddress) (window : Window)
    : (peripheral.openWrite address register window).Matches
        (other.openWrite address register window) := by
  have selected := (same.sendRegister address register).awaitEvent .byteTransmitting
  exact (selected.arm .tx window).issue (.dmaRequests true)

theorem Matches.closeFrame (same : peripheral.Matches other) (stream : Stream)
    : (peripheral.closeFrame stream).Matches (other.closeFrame stream) := by
  cases stream with
  | rx =>
      exact (((same.issue .stop).issue (.disable .rx)).issue (.dmaRequests false)).issue
        (.ack true)
  | tx =>
      exact (((same.issue (.disable .tx)).issue (.dmaRequests false)).awaitFlag
        (.inl rfl)).issue .stop

-----------------------------------------------------------------------------------------
-- Probes
-----------------------------------------------------------------------------------------

theorem settling_awaitAnswer (peripheral : Peripheral)
    : peripheral.awaitAnswer.pace.settling = 0 := by
  unfold awaitAnswer
  generalize count : peripheral.pace.settling = refusals
  induction refusals generalizing peripheral with
  | zero => rw [askUntil, settling_askAnswered, count]
  | succ rest ih =>
      have unseen : peripheral.askAnswered.1 = false := by
        simp [askAnswered, askFlag, observe, count]
      simp only [askUntil, unseen, Bool.false_eq_true, if_false]
      exact ih _ (by rw [settling_askAnswered, count]; rfl)

/-- The peripheral when it has shown whether a slave acknowledges its address. -/
def answered (peripheral : Peripheral) (address : UInt8) : Peripheral :=
  ((peripheral.start.awaitEvent .masterModeSelect).sendAddress address .transmitter).awaitAnswer

theorem Matches.answered (same : peripheral.Matches other) (address : UInt8)
    : (peripheral.answered address).Matches (other.answered address) := by
  have sent :=
    ((same.issue .start).awaitEvent .masterModeSelect).sendAddress address .transmitter
  exact sent.waited (matches_awaitAnswer _ address .transmitter)
    (matches_awaitAnswer _ address .transmitter)

/-- A probe takes an address for acknowledged exactly if the script does not refuse it: the wait
ends when the address has settled, so asking once more cannot disagree with how it ended.
-/
theorem probe_eq (peripheral : Peripheral) (address : UInt8)
    : peripheral.probe address
      = let asked := ((peripheral.answered address).askFlag .addressSent).2
        if peripheral.script.refuses .transmitter then (false, asked.clearAckFailure)
        else (true, asked.clearAddress.stop) := by
  have settled : (peripheral.answered address).pace.settling = 0 := settling_awaitAnswer _
  have answer
      : (peripheral.answered address).address
        = if peripheral.script.refuses .transmitter then .refused else .acknowledged := by
    have begun : (peripheral.start.awaitEvent .masterModeSelect).script = peripheral.script :=
      (peripheral.start.matches_awaitEvent .masterModeSelect).script
    have known := (matches_awaitAnswer (peripheral.start.awaitEvent .masterModeSelect) address
      .transmitter).address
    rw [address_sendAddress, begun] at known
    exact known
  have seen
      : ((peripheral.answered address).askFlag .addressSent).1
        = !peripheral.script.refuses .transmitter := by
    simp only [askFlag, settled, answer]
    cases peripheral.script.refuses .transmitter <;> simp
  change
    (if ((peripheral.answered address).askFlag .addressSent).1 then
      (true, ((peripheral.answered address).askFlag .addressSent).2.clearAddress.stop)
    else (false, ((peripheral.answered address).askFlag .addressSent).2.clearAckFailure)) = _
  rw [seen]
  cases peripheral.script.refuses .transmitter <;> rfl

theorem Matches.probe (same : peripheral.Matches other) (address : UInt8)
    : (peripheral.probe address).1 = (other.probe address).1
      ∧ (peripheral.probe address).2.Matches (other.probe address).2 := by
  have asked := (same.answered address).waited (matches_askFlag _ .addressSent)
    (matches_askFlag _ .addressSent)
  rw [probe_eq, probe_eq, same.script]
  cases other.script.refuses .transmitter with
  | true => exact ⟨rfl, asked.clearAckFailure⟩
  | false => exact ⟨rfl, asked.clearAddress.issue .stop⟩

-----------------------------------------------------------------------------------------
-- The far side and accesses by hand
-----------------------------------------------------------------------------------------

theorem Matches.arrange (same : peripheral.Matches other) (arrangement : Arrangement)
    : (peripheral.arrange arrangement).Matches (other.arrange arrangement) :=
  { same with script := congrArg arrangement.apply same.script }

theorem Matches.forget (same : peripheral.Matches other)
    : peripheral.forget.Matches other.forget :=
  { same with
    log := rfl
    deeds := rfl }

theorem Matches.takeArmed (same : peripheral.Matches other) (stream : Stream)
    : (peripheral.takeArmed stream = none ∧ other.takeArmed stream = none)
      ∨ ∃ window,
          peripheral.takeArmed stream = some (window, { peripheral with armed := none })
          ∧ other.takeArmed stream = some (window, { other with armed := none })
          ∧ { peripheral with armed := none }.Matches { other with armed := none } := by
  have disarmed : { peripheral with armed := none }.Matches { other with armed := none } :=
    { same with armed := rfl }
  unfold Peripheral.takeArmed
  rw [same.armed]
  cases other.armed with
  | none => exact .inl ⟨rfl, rfl⟩
  | some transfer =>
      by_cases own : transfer.1 = stream
      · exact .inr ⟨transfer.2, by simp [own], by simp [own], disarmed⟩
      · exact .inl ⟨by simp [own], by simp [own]⟩

/-- Accesses by hand do the same, and all but questions about the status are answered alike. -/
theorem Matches.manual (same : peripheral.Matches other) (access : ManualAccess)
    : (access.isQuestion = false → (access.apply peripheral).1 = (access.apply other).1)
      ∧ (access.apply peripheral).2.Matches (access.apply other).2 := by
  cases access with
  | configure | start | stop | send | ack | lastTransfer | dmaRequests | disable =>
      exact ⟨fun _ => rfl, same.issue _⟩
  | address value direction => exact ⟨fun _ => rfl, same.sendAddress value direction⟩
  | receive =>
      obtain ⟨value, received⟩ := same.receive
      exact ⟨fun _ => congrArg ManualAnswer.byte value, received⟩
  | clearAddress => exact ⟨fun _ => rfl, same.clearAddress⟩
  | clearAckFailure => exact ⟨fun _ => rfl, same.clearAckFailure⟩
  | arm stream window => exact ⟨fun _ => rfl, same.arm stream window⟩
  | takeCompleted stream =>
      obtain ⟨seen, taken⟩ := same.takeCompleted stream
      exact ⟨fun _ => congrArg ManualAnswer.truth seen, taken⟩
  | stopHeld =>
      exact ⟨by simp [ManualAccess.isQuestion],
        same.waited (matches_askStopHeld _) (matches_askStopHeld _)⟩
  | event =>
      exact ⟨by simp [ManualAccess.isQuestion],
        same.waited (matches_askReady _ fun _ => rfl) (matches_askReady _ fun _ => rfl)⟩
  | flag kind =>
      exact ⟨by simp [ManualAccess.isQuestion],
        same.waited (matches_askFlag _ kind) (matches_askFlag _ kind)⟩

end Peripheral

end TwoWire
