import TwoWire.Proofs.Speech

/-! The trials of a standby probe, as far as they were made.

A probe that pauses has said one refusal for each trial that it spent, so the trials that are left
tell how much of its frame is on the wire.
-/

namespace TwoWire

open WireFrame

namespace Peripheral

/-- What a number of trials did to a peripheral: they ended with an acknowledgement, used
themselves up, or were interrupted by a pause when some were left.
-/
inductive Tried (peripheral : Peripheral) (address : UInt8) (trials : Nat)
    : Poll Retry.Paused Bool → Peripheral → Prop
  | acknowledged {count after} (left : count < trials)
    (said : peripheral.Says (refusals address count ++ acknowledgement address) after)
    : Tried peripheral address trials (.ready true) after
  | exhausted {after} (said : peripheral.Says (refusals address trials) after)
    : Tried peripheral address trials (.ready false) after
  | paused {paused after} (some : 0 < paused.trials) (left : paused.trials ≤ trials)
    (said : peripheral.Says (refusals address (trials - paused.trials)) after)
    : Tried peripheral address trials (.pending paused) after

/-- One trial says a refusal or an acknowledgement, and answers which of them it was. -/
theorem says_probe (peripheral : Peripheral) (address : UInt8)
    : peripheral.Says
        (if (peripheral.probe address).1 then acknowledgement address else refusal address)
        (peripheral.probe address).2 := by
  have sent := (((peripheral.says_issue .start).andSays
    (says_awaitEvent _ .masterModeSelect)).andSays (says_sendAddress _ address .transmitter))
  have asked := (sent.andSays (says_awaitAnswer _)).andSays (says_askFlag _ .addressSent)
  unfold probe
  dsimp only
  split
  · exact (asked.andSays (says_clearAddress _)).andSays (says_issue _ .stop)
  · exact asked.andSays (says_clearAckFailure _)

/-- A trial that was refused leaves the others to be made as if they were the first. -/
theorem Tried.afterRefusal {before middle after : Peripheral} {address : UInt8} {trials : Nat}
    {outcome : Poll Retry.Paused Bool} (refused : before.Says (refusal address) middle)
    (rest : middle.Tried address trials outcome after)
    : before.Tried address (trials + 1) outcome after := by
  cases rest with
  | @acknowledged count _ left said =>
      have spoken := refused.andSays said
      rw [← List.append_assoc, ← refusals_succ] at spoken
      exact .acknowledged (by omega) spoken
  | exhausted said =>
      have spoken := refused.andSays said
      rw [← refusals_succ] at spoken
      exact .exhausted spoken
  | paused some left said =>
      have spoken := refused.andSays said
      rw [← refusals_succ, ← Nat.sub_add_comm left] at spoken
      exact .paused some (by omega) spoken

/-- The trials of a retry are what it makes of them, by induction over the trials that may be
made: each is the first of the rest.
-/
theorem tried_run (interval : Nat) (address : UInt8) (trials : Nat) (peripheral : Peripheral)
    (delay : Delay)
    : let (outcome, after, _) :=
        Retry.run interval (fun current => current.probe address) trials peripheral delay
      peripheral.Tried address trials outcome after := by
  induction trials generalizing peripheral delay with
  | zero => exact .exhausted (says_nothing peripheral)
  | succ trials ih =>
      have said := peripheral.says_probe address
      simp only [Retry.run]
      cases acknowledged : (peripheral.probe address).1 with
      | true =>
          rw [acknowledged] at said
          exact .acknowledged (Nat.succ_pos trials) said
      | false =>
          simp only [acknowledged, Bool.false_eq_true, if_false] at said ⊢
          by_cases last : trials = 0
          · subst last
            exact .exhausted (by simpa [refusals_succ] using said)
          · simp only [last, if_false]
            cases delay.pause (Delay.milliseconds interval) with
            | mk outcome later =>
                cases outcome with
                | ready => exact .afterRefusal said (ih _ later)
                | pending slices =>
                    refine .paused (Nat.pos_of_ne_zero last) (Nat.le_succ trials) ?_
                    simpa [refusals_succ] using said

/-- A retry that goes on makes the trials that it had left, after its pause. -/
theorem tried_resume (interval : Nat) (address : UInt8) {paused : Retry.Paused}
    (some : 0 < paused.trials) (peripheral : Peripheral) (delay : Delay)
    : let (outcome, after, _) :=
        Retry.resume interval (fun current => current.probe address) paused peripheral delay
      peripheral.Tried address paused.trials outcome after := by
  unfold Retry.resume
  cases delay.pause paused.slices with
  | mk outcome later =>
      cases outcome with
      | ready => exact tried_run interval address paused.trials peripheral later
      | pending slices =>
          refine .paused some (Nat.le_refl _) ?_
          simpa using says_nothing peripheral

end Peripheral

end TwoWire
