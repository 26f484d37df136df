import Mathlib.Algebra.BigOperators.Group.Finset.Basic
import Mathlib.Algebra.Ring.Int.Defs
import Mathlib.Data.Fintype.Basic
import TwoWire.Proofs.Readings
import TwoWire.Proofs.SensorLife
import TwoWire.Proofs.Settings

/-! What decoding makes of the memory of a ring, whatever is in it.

An enabled sensor always answers with a reading, and no other one does. The reading is the average
over the slots that no capture may be writing to, summed up without overflow. It is recorded as it
is answered, nothing else changes, and what is recorded is always what was answered last.
-/

namespace TwoWire

open Magnetometer

-----------------------------------------------------------------------------------------
-- The numbers in a slot
-----------------------------------------------------------------------------------------

namespace SampleRing

/-- The number of an axis in a slot, which has two bytes for each axis. -/
def word (ring : SampleRing) (slot : Fin 2) (axis : Axis) : Int :=
  let position := 8 * slot.val + 2 * axis.index.val
  bigEndian (ring.byteAt position) (ring.byteAt (position + 1))

theorem get_sample (ring : SampleRing) (slot : Fin 2) (axis : Axis)
    : (ring.sample slot).get axis = ring.word slot axis := by
  simp only [sample, Axes.get_ofFn, axisSample, word, signedWord_eq, slotOffset, slotStride,
    Nat.mul_comm slot.val]

end SampleRing

-----------------------------------------------------------------------------------------
-- The sums
-----------------------------------------------------------------------------------------

/-- Add numbers up one after the other in 32 bits, where a sum that is too large wraps around. -/
def accumulate (values : List Int) : Int32 :=
  values.foldl (fun sum value => sum + Int32.ofInt value) 0

/-- As long as there are few numbers of 16 bits, no sum of them wraps around, by induction from the
last number added.
-/
theorem toInt_accumulate {values : List Int} (few : values.length < 65536)
    (words : ∀ value ∈ values, -32768 ≤ value ∧ value ≤ 32767)
    : -32768 * (values.length : Int) ≤ values.sum
      ∧ values.sum ≤ 32767 * (values.length : Int)
      ∧ (accumulate values).toInt = values.sum := by
  induction values using List.reverseRecOn with
  | nil => simp [accumulate]
  | append_singleton before value ih =>
      have fewer : before.length < 65536 := by
        rw [List.length_append] at few
        exact Nat.lt_of_le_of_lt (Nat.le_add_right _ _) few
      obtain ⟨low, high, exact⟩ :=
        ih fewer fun earlier member => words earlier (List.mem_append_left _ member)
      obtain ⟨least, most⟩ := words value (by simp)
      have last : accumulate (before ++ [value]) = accumulate before + Int32.ofInt value := by
        simp [accumulate]
      rw [last, Int32.toInt_add, exact, Int32.toInt_ofInt, List.sum_append]
      rw [List.length_append] at few ⊢
      simp only [List.sum_singleton, List.length_singleton, Int.natCast_add, Int.add_bmod_bmod]
      have width : (Int32.size : Int) = 2 ^ 32 := rfl
      refine ⟨by omega, by omega, Int.bmod_eq_of_le ?_ ?_⟩ <;> omega

namespace Magnetometer

namespace Sensor

/-- The slots that are averaged: the one at the cursor is left out while the bus is busy. -/
def included (cursor : Fin 2) (busy : Bool) : Finset (Fin 2) :=
  Finset.univ.filter fun slot => ¬ (slot = cursor ∧ busy = true)

theorem toFinset_usedSlots (cursor : Fin 2) (busy : Bool)
    : (usedSlots cursor busy).toFinset = included cursor busy := by
  ext slot
  simp [usedSlots, included, -not_and, not_and_or]

theorem nodup_usedSlots (cursor : Fin 2) (busy : Bool)
    : (usedSlots cursor busy).Nodup :=
  (List.nodup_finRange 2).filter _

theorem length_usedSlots (cursor : Fin 2) (busy : Bool)
    : (usedSlots cursor busy).length = (included cursor busy).card := by
  rw [← toFinset_usedSlots, List.toFinset_card_of_nodup (nodup_usedSlots cursor busy)]

/-- Both slots are averaged on an idle bus, and one on a busy bus. -/
theorem card_included (cursor : Fin 2) (busy : Bool)
    : (included cursor busy).card = if busy then 1 else 2 := by
  revert cursor busy
  decide

/-- Adding the numbers of an axis up slot by slot gives their sum over the slots. -/
theorem sum_words (ring : SampleRing) (cursor : Fin 2) (busy : Bool) (axis : Axis)
    : ((usedSlots cursor busy).map (ring.word · axis)).sum
      = ∑ slot ∈ included cursor busy, ring.word slot axis := by
  rw [← toFinset_usedSlots, List.sum_toFinset _ (nodup_usedSlots cursor busy)]

theorem get_sums (ring : SampleRing) (cursor : Fin 2) (busy : Bool) (axis : Axis)
    : (sums ring (usedSlots cursor busy)).get axis
      = ∑ slot ∈ included cursor busy, ring.word slot axis := by
  rw [← sum_words, List.sum_eq_foldl]
  simp only [sums, Axes.get_ofFn, SampleRing.get_sample]

/-- However far the numbers of an axis have been added up, the sum has not wrapped around. -/
theorem accumulate_words {ring : SampleRing} {cursor : Fin 2} {busy : Bool} {axis : Axis}
    {taken : List Int}
    (begins : taken <+: (usedSlots cursor busy).map (ring.word · axis))
    : -65536 ≤ taken.sum ∧ taken.sum ≤ 65534 ∧ (accumulate taken).toInt = taken.sum := by
  have few : taken.length ≤ 2 := by
    have all := begins.length_le
    rw [List.length_map, length_usedSlots, card_included] at all
    split at all <;> omega
  have words (value : Int) (member : value ∈ taken) : -32768 ≤ value ∧ value ≤ 32767 := by
    obtain ⟨slot, -, rfl⟩ := List.mem_map.mp (begins.mem member)
    exact bigEndian_bounds _ _
  obtain ⟨low, high, exact⟩ := toInt_accumulate (by omega) words
  exact ⟨by omega, by omega, exact⟩

end Sensor

namespace Sensor

/-- An enabled sensor always has slots to average. -/
theorem decode_averages {sensor : Sensor} (enabled : sensor.state = .enabled) (master : Master)
    (temperature : Float32) (now : Nat)
    : let ring := master.memory.ring sensor.ring
      let slots := included ring.cursor (master.bus sensor.config.bus).isBusy
      ∃ reading,
        (sensor.decode master temperature now).1 = some reading
        ∧ reading.Averages sensor (fun axis => ∑ slot ∈ slots, ring.word slot axis) slots.card
            temperature now := by
  intro ring slots
  obtain ⟨reading, decoded, averages⟩ := decode_averages_used enabled master temperature now
  refine ⟨reading, decoded, ?_⟩
  rw [length_usedSlots] at averages
  exact funext (get_sums ring _ _) ▸ averages

theorem decode_of_not_enabled {sensor : Sensor} (other : sensor.state ≠ .enabled)
    (master : Master) (temperature : Float32) (now : Nat)
    : (sensor.decode master temperature now).1 = none := by
  simp [decode, other]

/-- A sensor is enabled only after a bring-up has loaded its calibration. -/
theorem Life.loaded {sensor : Sensor} {waiting : Nat} {history : List Milestone}
    (life : sensor.Life waiting history) (enabled : sensor.state = .enabled)
    : ∃ table, .begun table ∈ history ∧ sensor.calibration = .load table := by
  cases life with
  | ready state held configured line model => exact ⟨_, List.mem_cons_self, model⟩
  | new state | registered state | probing state | failed state => simp [state] at enabled

end Sensor

end Magnetometer

-----------------------------------------------------------------------------------------
-- What is recorded
-----------------------------------------------------------------------------------------

namespace Bench

/-- The bench with other contents of all memory. -/
def withMemory (bench : Bench) (memory : Memory) : Bench :=
  { bench with master := { bench.master with memory } }

/-- The reading that a sensor answers to an action, if it is decoded and has one. -/
def decoded? (index : Nat) : Action × Answer → Option Reading
  | (.sensor place (.decode _ _), ⟨.decoded reading, _, _⟩) =>
    if place = index then reading else none
  | _ => none

/-- The readings that a sensor answers in a run, in their order. -/
def decodings (index : Nat) (bench : Bench) (actions : List Action) : List Reading :=
  (actions.zip (bench.run actions).1).filterMap (decoded? index)

/-- A sensor was given these settings and a ring, and this reading is recorded on it. -/
def Recalls (index : Nat) (given : Config × Nat) (reading : Option Reading) (bench : Bench)
    : Prop :=
  ∃ sensor,
    bench.sensors[index]? = some sensor
    ∧ (sensor.config, sensor.ring) = given
    ∧ sensor.reading = reading

variable {bench : Bench} {index : Nat} {given : Config × Nat} {reading : Option Reading}
  {sensor : Sensor} {actions : List Action}

/-- Decoding a sensor replaces the reading on it, if there is a new one, and leaves the bench as it
is otherwise.
-/
theorem step_decode (here : bench.sensors[index]? = some sensor) (temperature : Float32)
    (now : Nat)
    : let outcome := (sensor.decode bench.master temperature now).1
      bench.step (.sensor index (.decode temperature now))
      = (.ofResult (.decoded outcome),
          bench.setSensor index { sensor with reading := outcome.or sensor.reading }) := by
  simp only [step, here, stepSensor, Sensor.decode_snd]

/-- Whatever is done, the reading on a sensor is the one that it answers now, or else the one
before. Only decoding touches it.
-/
theorem Recalls.step (recalls : bench.Recalls index given reading) (action : Action)
    : (bench.step action).2.Recalls index given
        ((decoded? index (action, (bench.step action).1)).or reading) := by
  obtain ⟨sensor, here, rfl, rfl⟩ := recalls
  by_cases decodes : ∃ temperature now, action = .sensor index (.decode temperature now)
  · obtain ⟨temperature, now, rfl⟩ := decodes
    rw [step_decode here]
    refine ⟨_, List.getElem?_set_self (List.getElem?_eq_some_iff.mp here).1, rfl, ?_⟩
    simp [decoded?, Answer.ofResult]
  · have silent : decoded? index (action, (bench.step action).1) = none := by
      cases action with
      | sensor place asked =>
          cases asked with
          | decode temperature now =>
              have other : place ≠ index := fun same => decodes ⟨temperature, now, same ▸ rfl⟩
              unfold decoded?
              split
              · simp_all
              · rfl
          | _ => rfl
      | _ => rfl
    rw [silent, Option.none_or]
    rcases bench.sensors_step action with same | ⟨place, old, after, there, alters, replaced⟩
    · exact ⟨sensor, same ▸ here, rfl, rfl⟩
    · by_cases own : place = index
      · subst own
        obtain rfl := Option.some.inj (here.symm.trans there)
        have retains :=
          alters.retains fun temperature now same => decodes ⟨temperature, now, same⟩
        refine ⟨after, ?_, by rw [retains.config, retains.ring], retains.reading⟩
        rw [replaced]
        exact List.getElem?_set_self (List.getElem?_eq_some_iff.mp here).1
      · refine ⟨sensor, ?_, rfl, rfl⟩
        rw [replaced, List.getElem?_set_ne own]
        exact here

/-- After a run the reading on a sensor is the last one that it answered, by induction over the
actions.
-/
theorem Recalls.run (recalls : bench.Recalls index given reading) (actions : List Action)
    : (bench.run actions).2.Recalls index given
        ((bench.decodings index actions).getLast?.or reading) := by
  induction actions generalizing bench reading with
  | nil => exact recalls
  | cons action rest ih =>
      have later := ih (recalls.step action)
      rw [← Option.or_assoc] at later
      have grows
          : bench.decodings index (action :: rest)
            = (decoded? index (action, (bench.step action).1)).toList
              ++ (bench.step action).2.decodings index rest := by
        simp only [decodings, Bench.run, List.zip_cons_cons, List.filterMap_cons]
        cases decoded? index (action, (bench.step action).1) <;> rfl
      have newest (now : Option Reading) : now.toList.getLast? = now := by
        cases now <;> rfl
      rw [grows, List.getLast?_append, newest]
      exact later

theorem recalls_assemble (capacity : Fin 255) (paces : PerBus (Option Pace))
    (buffers : List (List UInt8)) (sensors : List (Config × Nat)) (index : Fin sensors.length)
    : (assemble capacity paces buffers sensors).Recalls index.val (sensors.get index) none :=
  ⟨.new (sensors.get index).1 (sensors.get index).2, by simp [assemble, Bench.new], rfl, rfl⟩

/-- A table that was loaded in a run was given to a bring-up in it, by induction over the actions.
-/
theorem bringUp_of_mem_history {table : ParameterTable}
    (member : .begun table ∈ bench.history index actions)
    : ∃ schedule number, .sensor index (.bringUp table schedule number) ∈ actions := by
  induction actions generalizing bench with
  | nil => exact absurd member List.not_mem_nil
  | cons action rest ih =>
      rcases List.mem_append.mp member with now | later
      · obtain ⟨schedule, number, rfl⟩ := bringUp_of_begun now
        exact ⟨schedule, number, List.mem_cons_self⟩
      · obtain ⟨schedule, number, inside⟩ := ih later
        exact ⟨schedule, number, List.mem_cons_of_mem _ inside⟩

-----------------------------------------------------------------------------------------
-- Every run
-----------------------------------------------------------------------------------------

/-- After every run, whatever the memory holds then, decoding a sensor gives a reading exactly if it
is enabled. The reading averages all slots but the one at the cursor while the bus of the sensor is
busy, and no sum that comes up on the way leaves its bounds. The reading is recorded and nothing
else is changed. What is recorded on a sensor is always what it answered last.
-/
theorem decode_averages_included (capacity : Fin 255) (paces : PerBus (Option Pace))
    (buffers : List (List UInt8)) (sensors : List (Config × Nat)) (index : Fin sensors.length)
    (actions : List Action)
    : let bench := ((assemble capacity paces buffers sensors).run actions).2
      let last := ((assemble capacity paces buffers sensors).decodings index.val actions).getLast?
      ∃ sensor,
        bench.sensors[index.val]? = some sensor
        ∧ (sensor.config, sensor.ring) = sensors.get index
        ∧ (sensor.state = .enabled
          → ∃ table schedule number,
              .sensor index (.bringUp table schedule number) ∈ actions
              ∧ sensor.calibration = .load table)
        ∧ sensor.reading = last
        ∧ sensor.raw = last.map Reading.raw
        ∧ sensor.calibrated = last.map Reading.calibrated
        ∧ sensor.lastUpdate = last.map Reading.timestamp
        ∧ ∀ memory temperature now,
            let before := bench.withMemory memory
            let outcome := before.step (.sensor index (.decode temperature now))
            let ring := memory.ring sensor.ring
            let busy := (bench.master.bus sensor.config.bus).isBusy
            let slots := Sensor.included ring.cursor busy
            (if sensor.state = .enabled then
              ∃ reading,
                reading.Averages sensor (fun axis => ∑ slot ∈ slots, ring.word slot axis)
                  slots.card temperature now
                ∧ outcome
                  = (.ofResult (.decoded (some reading)),
                      before.setSensor index { sensor with reading := some reading })
            else
              outcome = (.ofResult (.decoded none), before))
            ∧ slots.card = (if busy then 1 else 2)
            ∧ ∀ axis,
                let numbers := (Sensor.usedSlots ring.cursor busy).map (ring.word · axis)
                numbers.sum = ∑ slot ∈ slots, ring.word slot axis
                ∧ ∀ taken, taken <+: numbers
                  → -65536 ≤ taken.sum
                    ∧ taken.sum ≤ 65534
                    ∧ (accumulate taken).toInt = taken.sum := by
  have assembled := grounded_assemble capacity paces buffers sensors
  obtain ⟨sensor, here, given, recorded⟩ :=
    (recalls_assemble capacity paces buffers sensors index).run actions
  obtain ⟨lived, found, life⟩ :=
    assembled.lives_run (lives_assemble capacity paces buffers sensors index) actions
  obtain rfl := Option.some.inj (here.symm.trans found)
  rw [Option.or_none] at recorded
  rw [List.nil_append] at life
  refine ⟨sensor, here, given, ?_, recorded, ?_, ?_, ?_, ?_⟩
  · intro enabled
    obtain ⟨table, begun, model⟩ := life.loaded enabled
    obtain ⟨schedule, number, member⟩ := bringUp_of_mem_history begun
    exact ⟨table, schedule, number, member, model⟩
  · rw [Sensor.raw, recorded]
  · rw [Sensor.calibrated, recorded]
  · rw [Sensor.lastUpdate, recorded]
  intro memory temperature now before outcome ring busy slots
  have there : before.sensors[index.val]? = some sensor := here
  have decoded : outcome = _ := step_decode there temperature now
  refine ⟨?_, Sensor.card_included ring.cursor busy, fun axis => ?_⟩
  · split
    · rename_i enabled
      obtain ⟨reading, answered, averages⟩ :=
        Sensor.decode_averages enabled before.master temperature now
      rw [answered] at decoded
      exact ⟨reading, averages, decoded⟩
    · rename_i other
      rw [Sensor.decode_of_not_enabled other] at decoded
      exact decoded.trans (congrArg (Prod.mk _) (setSensor_self here))
  · exact ⟨Sensor.sum_words ring ring.cursor busy axis, fun taken => Sensor.accumulate_words⟩

/-- A sensor that counts whole gauss lies upside down about its first axis and has read two
captures. Its calibration has a bias that grows with the temperature, a coupling, a scale and a
quarter turn.
-/
theorem decode_averages_included_upside_down
    : let sensors : List (Config × Nat) := [({ Config.factory with gaussPerCount := 1 }, 0)]
      let table := ParameterTable.ofFn fun
        | .bias .x 0 => 2
        | .bias .x 1 => 0.5
        | .bias .z 0 => 1
        | .align .xy => 0.5
        | .scale .y 0 => 2
        | .scale _ 0 => 1
        | .mounting => 1
        | .rotation => 90
        | _ => 0
      let actions : List Action :=
        [.sensor 0 .register, .arrange .i2c1 (.fallback identityCode),
          .sensor 0 (.bringUp table false none), .sensor 0 .enable,
          .sensor 0 .dataReady, .deliver .i2c1 [0, 10, 0, 20, 0, 4], .complete .i2c1 .rx,
          .sensor 0 .dataReady, .deliver .i2c1 [0, 6, 0, 16, 0, 8], .complete .i2c1 .rx]
      let bench := ((assemble 2 ⟨some .instant, none, none⟩ [] sensors).run actions).2
      let reading : Reading := ⟨⟨8, -18, 6⟩, ⟨9, 3, 5⟩, 7⟩
      (bench.step (.sensor 0 (.decode 4 7))).1 = .ofResult (.decoded (some reading)) := by
  intro sensors table actions bench reading
  obtain ⟨sensor, here, given, loaded, -, -, -, -, decodes⟩ :=
    decode_averages_included 2 ⟨some .instant, none, none⟩ [] sensors 0 actions
  have here : bench.sensors[0]? = some sensor := here
  have enabled : (bench.sensors[0]?).map Sensor.state = some .enabled := by decide +kernel
  rw [here, Option.map_some, Option.some.injEq] at enabled
  obtain ⟨config, ring⟩ := Prod.mk.inj given
  have model : sensor.calibration = .load table := by
    obtain ⟨begun, schedule, number, member, model⟩ := loaded enabled
    obtain ⟨rfl, -⟩ : begun = table ∧ _ := by simpa [actions] using member
    exact model
  obtain ⟨decoded, -⟩ := decodes bench.master.memory 4 7
  rw [if_pos enabled] at decoded
  obtain ⟨answered, averages, outcome⟩ := decoded
  have idle : (bench.master.bus sensor.config.bus).isBusy = false := by
    rw [config]
    decide +kernel
  have sums (axis : Axis)
      : ∑ slot ∈ Sensor.included (bench.master.memory.ring sensor.ring).cursor false,
          (bench.master.memory.ring sensor.ring).word slot axis
        = (⟨16, 36, 12⟩ : Axes Int).get axis := by
    rw [ring]
    cases axis <;> decide +kernel
  rw [idle] at averages
  simp only [sums, Sensor.card_included] at averages
  have passes
      : (Calibration.load table).Passes 4 ⟨8, -18, 6⟩ ⟨12, -18, 5⟩ ⟨3, -18, 5⟩ ⟨3, -9, 5⟩
          ⟨9, 3, 5⟩ := by
    refine ⟨fun axis => ?_, by decide +kernel, fun axis => ?_, by decide +kernel⟩
    · cases axis <;> decide +kernel
    · cases axis <;> decide +kernel
  have made
      : reading.Averages sensor (fun axis => (⟨16, 36, 12⟩ : Axes Int).get axis) 2 4 7 := by
    refine ⟨fun axis => ?_, ⟨_, _, _, model ▸ passes⟩, rfl⟩
    rw [config, model]
    cases axis <;> decide +kernel
  rw [show reading = answered from made.unique averages]
  exact congrArg Prod.fst outcome

end Bench

end TwoWire
