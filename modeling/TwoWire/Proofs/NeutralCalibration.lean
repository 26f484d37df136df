import TwoWire.Magnetometer.Calibration
import TwoWire.Proofs.SinglePrecision

/-! A neutral calibration is the identity.

A table that asks for no bias, no coupling, unit scale and no rotation leaves every finite vector as
it is, at every finite temperature and in each of the four stages. Vectors are compared number by
number, so a zero may change its sign.
-/

namespace TwoWire

open SinglePrecision

namespace Axes

/-- The two vectors are equal along each axis, where a zero equals a zero of the other sign. -/
def Alike (v w : Axes Float32) : Prop :=
  ∀ axis, v.get axis == w.get axis

/-- No component is a NaN or infinite. -/
def Finite (v : Axes Float32) : Prop :=
  ∀ axis, (v.get axis).isFinite

variable {u v w : Axes Float32}

theorem Alike.trans (first : u.Alike v) (second : v.Alike w)
    : u.Alike w :=
  fun axis => BEq.trans (first axis) (second axis)

theorem Alike.finite (alike : v.Alike w) (finite : w.Finite)
    : v.Finite :=
  fun axis => isFinite_of_beq (alike axis) (finite axis)

end Axes

namespace Magnetometer

/-- The table asks for no correction at all. What it says about the mounting is free. -/
structure ParameterTable.Neutral (table : ParameterTable) : Prop where
  unbiased : ∀ axis power, table.get (.bias axis power) == 0
  uncoupled : ∀ coupling, table.get (.align coupling) == 0
  unit : ∀ axis, table.get (.scale axis 0) == 1
  steady : ∀ axis (power : Fin 4), power ≠ 0 → table.get (.scale axis power) == 0
  level : table.get .rotation == 0

variable {table : ParameterTable} {v : Axes Float32} {temperature : Float32}

theorem eq_one_of_beq {x : Float32} (one : x == 1)
    : x = 1 := by
  rcases (Float32.beq_iff_ne_nan_and_eq.mp one).2.2 with same | ⟨-, other⟩ | ⟨-, other⟩
  · exact same
  · exact absurd other (by decide +kernel)
  · exact absurd other (by decide +kernel)

/-- A cubic without higher terms is its constant at every finite temperature. -/
theorem Cubic.eval_beq {cubic : Cubic} (finite : temperature.isFinite)
    (constant : cubic.c0 == cubic.c0) (linear : cubic.c1 == 0) (square : cubic.c2 == 0)
    (cube : cubic.c3 == 0)
    : cubic.eval temperature == cubic.c0 := by
  have third := mul_zero_beq finite cube
  have second := mul_zero_beq finite
    (BEq.trans (add_zero_beq (beq_self_of_beq square) third) square)
  have first := mul_zero_beq finite
    (BEq.trans (add_zero_beq (beq_self_of_beq linear) second) linear)
  exact add_zero_beq constant first

/-- The angle zero of either sign has the cosine one and the sine zero, by evaluation of both. -/
theorem Rotation.ofDegrees_of_beq_zero {degrees : Float32} (level : degrees == 0)
    : (Rotation.ofDegrees degrees).cos = 1 ∧ (Rotation.ofDegrees degrees).sin == 0 := by
  rcases (Float32.beq_iff_ne_nan_and_eq.mp level).2.2 with rfl | ⟨rfl, -⟩ | ⟨rfl, -⟩ <;>
    decide +kernel

namespace ParameterTable.Neutral

-----------------------------------------------------------------------------------------
-- What is loaded
-----------------------------------------------------------------------------------------

theorem bias_eval_beq (neutral : table.Neutral) (finite : temperature.isFinite) (axis : Axis)
    : ((Calibration.load table).bias.get axis).eval temperature == 0 := by
  simp only [Calibration.load, Axes.get_ofFn]
  have constant := neutral.unbiased axis 0
  exact BEq.trans
    (Cubic.eval_beq finite (beq_self_of_beq constant) (neutral.unbiased axis 1)
      (neutral.unbiased axis 2) (neutral.unbiased axis 3))
    constant

theorem scale_eval_eq (neutral : table.Neutral) (finite : temperature.isFinite) (axis : Axis)
    : ((Calibration.load table).scale.get axis).eval temperature = 1 := by
  simp only [Calibration.load, Axes.get_ofFn]
  have constant := neutral.unit axis
  exact eq_one_of_beq (BEq.trans
    (Cubic.eval_beq finite (beq_self_of_beq constant)
      (neutral.steady axis 1 (by decide)) (neutral.steady axis 2 (by decide))
      (neutral.steady axis 3 (by decide)))
    constant)

-----------------------------------------------------------------------------------------
-- The four stages
-----------------------------------------------------------------------------------------

theorem addBias_alike (neutral : table.Neutral) (tempered : temperature.isFinite)
    (finite : v.Finite)
    : ((Calibration.load table).addBias v temperature).Alike v := by
  intro axis
  have bias := neutral.bias_eval_beq tempered axis
  have number := beq_self_of_isFinite (finite axis)
  cases axis with
  | x | y => exact add_zero_beq number bias
  | z => exact sub_zero_beq number bias

/-- Each component gets two zeros, before, around or after it. -/
theorem align_alike (neutral : table.Neutral) (finite : v.Finite)
    : ((Calibration.load table).align v).Alike v := by
  have share (axis : Axis) (coupling : Coupling)
      : v.get axis * table.get (.align coupling) == 0 :=
    mul_zero_beq (finite axis) (neutral.uncoupled coupling)
  have number (axis : Axis) := beq_self_of_isFinite (finite axis)
  intro axis
  cases axis with
  | x =>
      have first := add_zero_beq (number .x) (share .y .xy)
      exact BEq.trans (add_zero_beq (beq_self_of_beq first) (share .z .xz)) first
  | y =>
      have first := zero_add_beq (number .y) (share .x .yx)
      exact BEq.trans (add_zero_beq (beq_self_of_beq first) (share .z .yz)) first
  | z =>
      have first := share .x .zx
      have both := BEq.trans (add_zero_beq (beq_self_of_beq first) (share .y .zy)) first
      exact zero_add_beq (number .z) both

theorem divideByScale_alike (neutral : table.Neutral) (tempered : temperature.isFinite)
    (finite : v.Finite)
    : ((Calibration.load table).divideByScale v temperature).Alike v := by
  intro axis
  have scale := neutral.scale_eval_eq tempered axis
  have divided
      : v.get axis / ((Calibration.load table).scale.get axis).eval temperature == v.get axis := by
    rw [scale, div_one_eq]
    exact beq_self_of_isFinite (finite axis)
  cases axis <;> exact divided

theorem turnBack_alike (neutral : table.Neutral) (finite : v.Finite)
    : ((Calibration.load table).turnBack v).Alike v := by
  obtain ⟨cosine, sine⟩ := Rotation.ofDegrees_of_beq_zero neutral.level
  have kept (axis : Axis)
      : v.get axis * (Calibration.load table).rotation.cos == v.get axis := by
    rw [show (Calibration.load table).rotation.cos = 1 from cosine, mul_one_eq]
    exact beq_self_of_isFinite (finite axis)
  have lost (axis : Axis)
      : v.get axis * (Calibration.load table).rotation.sin == 0 :=
    mul_zero_beq (finite axis) sine
  intro axis
  cases axis with
  | x => exact BEq.trans (sub_zero_beq (beq_self_of_beq (kept .x)) (lost .y)) (kept .x)
  | y => exact BEq.trans (add_zero_beq (beq_self_of_beq (kept .y)) (lost .x)) (kept .y)
  | z => exact beq_self_of_isFinite (finite .z)

end ParameterTable.Neutral

namespace Calibration

/-- With a neutral table every stage of the calibration, and all of them together, leave a finite
vector as it is at every finite temperature. Zeros may change their sign.
-/
theorem neutral_is_identity (neutral : table.Neutral) (finite : v.Finite)
    (tempered : temperature.isFinite)
    : ((load table).correct v temperature).Alike v
      ∧ ((load table).addBias v temperature).Alike v
      ∧ ((load table).align v).Alike v
      ∧ ((load table).divideByScale v temperature).Alike v
      ∧ ((load table).turnBack v).Alike v := by
  have biased := neutral.addBias_alike tempered finite
  have aligned := (neutral.align_alike (biased.finite finite)).trans biased
  have scaled := (neutral.divideByScale_alike tempered (aligned.finite finite)).trans aligned
  have turned := (neutral.turnBack_alike (scaled.finite finite)).trans scaled
  exact ⟨turned, biased, neutral.align_alike finite, neutral.divideByScale_alike tempered finite,
    neutral.turnBack_alike finite⟩

/-- The greatest finite number, the least subnormal one and a negative zero at a very low
temperature. The linear bias is a negative zero, and the sensor lies upside down.
-/
theorem neutral_is_identity_at_extremes
    : let table := ParameterTable.ofFn fun
        | .scale _ 0 => 1
        | .bias _ 1 => -0
        | .mounting => 2
        | _ => 0
      let v : Axes Float32 := ⟨.ofBits 0x7f7fffff, .ofBits 1, -0⟩
      let temperature := Float32.ofBits 0xff7fffff
      table.Neutral
      ∧ v.Finite
      ∧ temperature.isFinite
      ∧ ((load table).correct v temperature).Alike v := by
  intro table v temperature
  have neutral : table.Neutral :=
    { unbiased := by intro axis power; cases axis <;> decide +kernel +revert
      uncoupled := by intro coupling; cases coupling <;> decide +kernel
      unit := by intro axis; cases axis <;> decide +kernel
      steady := by intro axis power; cases axis <;> decide +kernel +revert
      level := by decide +kernel }
  have finite : v.Finite := by
    intro axis
    cases axis <;> decide +kernel
  have tempered : temperature.isFinite := by decide +kernel
  exact ⟨neutral, finite, tempered, (neutral_is_identity neutral finite tempered).1⟩

end Calibration

end Magnetometer

end TwoWire
