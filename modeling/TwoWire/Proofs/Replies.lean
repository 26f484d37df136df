import TwoWire.Proofs.Promptness
import TwoWire.Proofs.Retries
import TwoWire.Proofs.Trials

/-! What slaves answer to the trials of a probe.

Each trial is answered as the script has it and uses up one of the counted refusals. What a probe
says and what its script becomes are therefore told by the number of its trials.
-/

namespace TwoWire

open WireFrame

namespace Script

/-- Whether an address for sending is acknowledged, and what is arranged for the next ones. -/
def acknowledge (script : Script) : Bool × Script :=
  (script.address .transmitter).map (!·) id

/-- What is answered to a number of addresses for sending that follow each other. -/
def replies (script : Script) (count : Nat) : List Bool :=
  Retry.answers acknowledge count script

theorem acknowledge_eq (script : Script)
    : script.acknowledge
      = (!script.refuses .transmitter, { script with refusals := script.refusals - 1 }) := by
  unfold acknowledge address
  split
  · rename_i refused
    simp [refused]
  · rename_i taken
    have none : script.refusals - 1 = script.refusals := by
      simp only [refuses, Bool.or_eq_true, decide_eq_true_eq, not_or] at taken
      omega
    simp [taken, none]

/-- Each address uses up one refusal, by induction over the addresses. -/
theorem after_acknowledge (script : Script) (count : Nat)
    : Retry.after acknowledge count script
      = { script with refusals := script.refusals - count } := by
  induction count generalizing script with
  | zero => rfl
  | succ count ih =>
      rw [Retry.after, acknowledge_eq, ih, Nat.sub_sub, Nat.add_comm]

@[simp] theorem length_replies (script : Script) (count : Nat)
    : (script.replies count).length = count :=
  Retry.length_answers _ _ _

/-- Addresses that come later are answered as is arranged when the earlier ones are over. -/
theorem replies_add (script : Script) (first second : Nat)
    : script.replies (first + second)
      = script.replies first
        ++ { script with refusals := script.refusals - first }.replies second := by
  rw [replies, Retry.answers_add, after_acknowledge]
  rfl

/-- The counted refusals come first if not every address is refused, by induction over the
addresses.
-/
theorem replies_eq_map {script : Script} (plain : script.refuseAll = false) (count : Nat)
    : script.replies count
      = (List.range count).map fun trial => decide (script.refusals ≤ trial) := by
  induction count generalizing script with
  | zero => rfl
  | succ count ih =>
      have first : (!script.refuses .transmitter) = decide (script.refusals ≤ 0) := by
        simp only [refuses, plain, Bool.false_or]
        cases script.refusals <;> simp
      have rest
          : ({ script with refusals := script.refusals - 1 } : Script).replies count = _ :=
        ih plain
      rw [replies, Retry.answers, acknowledge_eq, ← replies, rest, List.range_succ_eq_map,
        List.map_cons, List.map_map, first]
      refine congrArg _ (List.map_congr_left (fun trial _ => ?_))
      exact decide_eq_decide.mpr Nat.sub_le_iff_le_add

end Script

namespace Peripheral

variable {address : UInt8} {count : Nat} {peripheral : Peripheral}

/-- A trial is answered as the script has it, and the script goes on. -/
theorem acknowledge_script (peripheral : Peripheral) (address : UInt8)
    : peripheral.script.acknowledge = (peripheral.probe address).map id Peripheral.script := by
  have begun : (peripheral.start.awaitEvent .masterModeSelect).script = peripheral.script :=
    (peripheral.start.matches_awaitEvent .masterModeSelect).script
  have known
      : (peripheral.answered address).script
        = (peripheral.script.address .transmitter).2 := by
    rw [← begun]
    exact (matches_awaitAnswer (peripheral.start.awaitEvent .masterModeSelect) address
      .transmitter).script
  have asked
      : ((peripheral.answered address).askFlag .addressSent).2.script
        = { peripheral.script with refusals := peripheral.script.refusals - 1 } :=
    known.trans (congrArg Prod.snd peripheral.script.acknowledge_eq)
  rw [Script.acknowledge_eq, probe_eq, ← asked]
  cases peripheral.script.refuses .transmitter <;> rfl

theorem answers_probe (peripheral : Peripheral) (address : UInt8) (count : Nat)
    : Retry.answers (·.probe address) count peripheral = peripheral.script.replies count :=
  (Retry.answers_map (acknowledge_script · address) count peripheral).symm

theorem script_after (peripheral : Peripheral) (address : UInt8) (count : Nat)
    : (Retry.after (·.probe address) count peripheral).script
      = { peripheral.script with refusals := peripheral.script.refusals - count } := by
  rw [← Script.after_acknowledge, ← Retry.after_map (acknowledge_script · address)]

/-- Trials that are refused say so one after the other, by induction over them. -/
theorem says_refusals
    (refused : Retry.answers (·.probe address) count peripheral = List.replicate count false)
    : peripheral.Says (refusals address count)
        (Retry.after (·.probe address) count peripheral) := by
  induction count generalizing peripheral with
  | zero => exact peripheral.says_nothing
  | succ count ih =>
      rw [Retry.answers, List.replicate_succ, List.cons.injEq] at refused
      have said := peripheral.says_probe address
      simp only [refused.1, Bool.false_eq_true, if_false] at said
      rw [refusals_succ]
      exact said.andSays (ih refused.2)

/-- The trial that is acknowledged comes after those that are refused. -/
theorem says_acknowledgement
    (answered
      : Retry.answers (·.probe address) (count + 1) peripheral
        = List.replicate count false ++ [true])
    : peripheral.Says (refusals address count ++ acknowledgement address)
        (Retry.after (·.probe address) (count + 1) peripheral) := by
  rw [Retry.answers_add] at answered
  obtain ⟨refused, last⟩ := List.append_inj' answered rfl
  have taken : ((Retry.after (·.probe address) count peripheral).probe address).1 = true := by
    simpa [Retry.answers] using last
  have said := (Retry.after (·.probe address) count peripheral).says_probe address
  simp only [taken, if_true] at said
  rw [Retry.after_add]
  exact (says_refusals refused).andSays said

end Peripheral

end TwoWire
