import TwoWire.Magnetometer.Sensor

/-! What a reading says, number by number.

The field before calibration is told by the counts that were summed up and by the number of captures
that they are over. The corrected field is told by the field before it, stage by stage. Every
operation rounds to single precision, so the order of the operations is part of what is said.
-/

namespace TwoWire

-----------------------------------------------------------------------------------------
-- Numbers of two bytes
-----------------------------------------------------------------------------------------

/-- The word of two bytes, the first of them on top, as a signed number. -/
def bigEndian (high low : UInt8) : Int :=
  (high.toBitVec ++ low.toBitVec).toInt

/-- The two bytes of a number are the digits of its word to the base of 256. -/
theorem SampleRing.signedWord_eq (high low : UInt8)
    : signedWord high low = bigEndian high low := by
  have digits : (high.toBitVec ++ low.toBitVec).toNat = high.toNat * 256 + low.toNat := by
    rw [BitVec.toNat_append, ← Nat.shiftLeft_add_eq_or_of_lt low.toBitVec.isLt,
      Nat.shiftLeft_eq]
    rfl
  rw [bigEndian, BitVec.toInt_eq_toNat_bmod, digits]
  rfl

theorem bigEndian_bounds (high low : UInt8)
    : -32768 ≤ bigEndian high low ∧ bigEndian high low ≤ 32767 := by
  have above : bigEndian high low < 2 ^ 15 := BitVec.toInt_lt
  exact ⟨BitVec.le_toInt _, Int.le_of_lt_add_one above⟩

namespace Magnetometer

-----------------------------------------------------------------------------------------
-- The four stages
-----------------------------------------------------------------------------------------

/-- The stages that a vector passes at a temperature, and what it is after each of them. The bias of
the third axis enters with the opposite sign, since this axis is wired inverted.
-/
structure Calibration.Passes (model : Calibration) (temperature : Float32)
    (raw biased aligned scaled turned : Axes Float32)
    : Prop where
  bias
    : ∀ axis,
        let bias := model.bias.get axis
        let offset :=
          bias.c0 + temperature * (bias.c1 + temperature * (bias.c2 + temperature * bias.c3))
        biased.get axis = if axis = .z then raw.get axis - offset else raw.get axis + offset
  couplings
    : let shares := model.alignment
      aligned
      = ⟨biased.x + biased.y * shares.xy + biased.z * shares.xz,
          biased.x * shares.yx + biased.y + biased.z * shares.yz,
          biased.x * shares.zx + biased.y * shares.zy + biased.z⟩
  scale
    : ∀ axis,
        let scale := model.scale.get axis
        scaled.get axis
        = aligned.get axis
          / (scale.c0
            + temperature * (scale.c1 + temperature * (scale.c2 + temperature * scale.c3)))
  rotation
    : turned
      = ⟨scaled.x * model.rotation.cos - scaled.y * model.rotation.sin,
          scaled.y * model.rotation.cos + scaled.x * model.rotation.sin,
          scaled.z⟩

/-- Correcting a vector takes it through the stages, each of which is by its formula. -/
theorem Calibration.passes_correct (model : Calibration) (v : Axes Float32)
    (temperature : Float32)
    : ∃ biased aligned scaled,
        model.Passes temperature v biased aligned scaled (model.correct v temperature) := by
  let biased := model.addBias v temperature
  let aligned := model.align biased
  refine ⟨biased, aligned, model.divideByScale aligned temperature, fun axis => ?_, rfl,
    fun axis => ?_, rfl⟩
  · cases axis <;> rfl
  · cases axis <;> rfl

/-- What leaves the last stage is decided by what enters the first one, stage by stage. -/
theorem Calibration.Passes.unique {model : Calibration} {temperature : Float32}
    {raw biased aligned scaled turned biased' aligned' scaled' turned' : Axes Float32}
    (one : model.Passes temperature raw biased aligned scaled turned)
    (other : model.Passes temperature raw biased' aligned' scaled' turned')
    : turned = turned' := by
  obtain rfl : biased = biased' :=
    Axes.ext_get fun axis => (one.bias axis).trans (other.bias axis).symm
  obtain rfl : aligned = aligned' := one.couplings.trans other.couplings.symm
  obtain rfl : scaled = scaled' :=
    Axes.ext_get fun axis => (one.scale axis).trans (other.scale axis).symm
  exact one.rotation.trans other.rotation.symm

-----------------------------------------------------------------------------------------
-- Readings
-----------------------------------------------------------------------------------------

/-- The axis about which a sensor is turned upside down, if it is. -/
def Mounting.about? : Mounting → Option Axis
  | normal => none
  | aboutX => some .x
  | aboutY => some .y

/-- A half turn reverses the two axes that it is not about, by cases on both. -/
theorem Mounting.get_signs (mounting : Mounting) (axis : Axis)
    : mounting.signs.get axis = if mounting.about?.all (· = axis) then 1 else -1 := by
  cases mounting <;> cases axis <;> rfl

/-- The field that a sensor has seen on average over a number of captures whose counts add up to
these sums, corrected at a temperature. A half turn of the sensor reverses the other two axes, and
the third axis is wired inverted.
-/
structure Reading.Averages (reading : Reading) (sensor : Sensor) (sums : Axis → Int)
    (captures : Nat) (temperature : Float32) (now : Nat)
    : Prop where
  raw
    : ∀ axis,
        reading.raw.get axis
        = Float32.ofInt (sums axis)
          * (sensor.config.gaussPerCount / Float32.ofNat captures)
          * (if sensor.calibration.mounting.about?.all (· = axis) then 1 else -1)
          * (if axis = .z then -1 else 1)
  calibrated
    : ∃ biased aligned scaled,
        sensor.calibration.Passes temperature reading.raw biased aligned scaled
          reading.calibrated
  timestamp : reading.timestamp = now

/-- Sums of counts make up a reading, by the formula of each number in it. -/
theorem Sensor.averages_rawField (sensor : Sensor) (sums : Axes Int) (captures : Nat)
    (temperature : Float32) (now : Nat)
    : let raw := rawField sensor.config sensor.calibration.mounting sums captures
      Reading.Averages ⟨raw, sensor.calibration.correct raw temperature, now⟩ sensor sums.get
        captures temperature now where
  raw axis := by
    have wired : wiring.get axis = if axis = .z then -1 else 1 := by cases axis <;> rfl
    rw [rawField, Axes.get_ofFn, Mounting.get_signs, wired]
  calibrated := sensor.calibration.passes_correct _ temperature
  timestamp := rfl

/-- There is one reading of which this can be said, number by number. -/
theorem Reading.Averages.unique {one other : Reading} {sensor : Sensor} {sums : Axis → Int}
    {captures now : Nat} {temperature : Float32}
    (first : one.Averages sensor sums captures temperature now)
    (second : other.Averages sensor sums captures temperature now)
    : one = other := by
  obtain ⟨raw, calibrated, timestamp⟩ := one
  obtain ⟨raw', calibrated', timestamp'⟩ := other
  obtain rfl : raw = raw' :=
    Axes.ext_get fun axis => (first.raw axis).trans (second.raw axis).symm
  obtain ⟨_, _, _, passes⟩ := first.calibrated
  obtain ⟨_, _, _, passes'⟩ := second.calibrated
  obtain rfl : calibrated = calibrated' := passes.unique passes'
  obtain rfl : timestamp = timestamp' := first.timestamp.trans second.timestamp.symm
  rfl

-----------------------------------------------------------------------------------------
-- What is decoded
-----------------------------------------------------------------------------------------

namespace Sensor

/-- There is always a slot that decoding counts. -/
theorem usedSlots_ne_nil (cursor : Fin 2) (busy : Bool)
    : usedSlots cursor busy ≠ [] := by
  revert cursor busy
  decide

/-- Decoding divides the sums by the number of the slots that it counts. -/
theorem decode_eq (sensor : Sensor) (master : Master) (temperature : Float32) (now : Nat)
    : let ring := master.memory.ring sensor.ring
      let used := usedSlots ring.cursor (master.bus sensor.config.bus).isBusy
      let raw :=
        rawField sensor.config sensor.calibration.mounting (sums ring used) used.length
      let reading := ⟨raw, sensor.calibration.correct raw temperature, now⟩
      sensor.decode master temperature now
      = if sensor.state = .enabled then
          (some reading, { sensor with reading := some reading })
        else (none, sensor) := by
  intro ring used raw reading
  have counts : used.isEmpty = false :=
    List.isEmpty_eq_false_iff.mpr (usedSlots_ne_nil _ _)
  unfold decode
  split
  · simp only [show (usedSlots (master.memory.ring sensor.ring).cursor
      (master.bus sensor.config.bus).isBusy).isEmpty = false from counts]
    rfl
  · rfl

/-- An enabled sensor averages the slots that it counts. -/
theorem decode_averages_used {sensor : Sensor} (enabled : sensor.state = .enabled)
    (master : Master) (temperature : Float32) (now : Nat)
    : let ring := master.memory.ring sensor.ring
      let used := usedSlots ring.cursor (master.bus sensor.config.bus).isBusy
      ∃ reading,
        (sensor.decode master temperature now).1 = some reading
        ∧ reading.Averages sensor (sums ring used).get used.length temperature now := by
  intro ring used
  refine ⟨_, ?_, sensor.averages_rawField (sums ring used) used.length temperature now⟩
  rw [sensor.decode_eq, if_pos enabled]

end Sensor

end Magnetometer

end TwoWire
