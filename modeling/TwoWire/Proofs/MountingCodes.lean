import TwoWire.Magnetometer.Calibration
import TwoWire.Proofs.SinglePrecision

/-! How a parameter says which way up a sensor is mounted.

The parameter is any single precision number. Numbers from one up to but not including two stand for
upside down about the first axis, those up to but not including three for upside down about the
second one, and everything else, also what is no number at all, for face up.
-/

namespace TwoWire.Magnetometer

open SinglePrecision

namespace Mounting

/-- The code that stands for a mounting; face up has every other code as well. -/
def code : Mounting → Nat
  | normal => 0
  | aboutX => 1
  | aboutY => 2

variable {mounting : Mounting} {value low high : Float32}

theorem ofCode_eq_iff (turned : mounting ≠ normal) (byte : UInt8)
    : ofCode byte = mounting ↔ byte.toNat = mounting.code := by
  have one : byte.toNat = 1 ↔ byte = 1 := UInt8.toNat_inj (b := 1)
  have two : byte.toNat = 2 ↔ byte = 2 := UInt8.toNat_inj (b := 2)
  unfold ofCode
  cases mounting with
  | normal => exact absurd rfl turned
  | aboutX | aboutY => split <;> simp_all [code]

/-- A parameter asks for an upside down mounting exactly if it is cut down to its code, which a
parameter outside of a byte never is.
-/
theorem ofParameter_eq_iff (turned : mounting ≠ normal) (least : IsWhole low mounting.code)
    (next : IsWhole high (mounting.code + 1))
    : ofParameter value = mounting ↔ low ≤ value ∧ value < high := by
  have nonzero : 0 < mounting.code := by
    cases mounting with
    | normal => exact absurd rfl turned
    | aboutX | aboutY => decide
  have small : mounting.code < 255 := by cases mounting <;> decide
  rw [← truncates_iff nonzero small least next, ofParameter]
  split
  · rename_i inside
    rw [ofCode_eq_iff turned, and_iff_right inside]
  · rename_i outside
    exact iff_of_false turned.symm fun both => outside both.1

theorem ofParameter_of_outside (outside : ¬(0 ≤ value ∧ value ≤ 255))
    : ofParameter value = normal :=
  if_neg outside

end Mounting

/-- Whatever single precision number the parameter is, the loaded mounting is the one about the
first axis from one up to two, the one about the second axis from two up to three, and face up in
every other case; in particular what does not fit in a byte means face up.
-/
theorem mounting_by_parameter (table : ParameterTable)
    : let value := table.get .mounting
      let mounting := (Calibration.load table).mounting
      (mounting = .aboutX ↔ 1 ≤ value ∧ value < 2)
      ∧ (mounting = .aboutY ↔ 2 ≤ value ∧ value < 3)
      ∧ (mounting = .normal ↔ ¬(1 ≤ value ∧ value < 2) ∧ ¬(2 ≤ value ∧ value < 3))
      ∧ (¬(0 ≤ value ∧ value ≤ 255) → mounting = .normal) := by
  intro value mounting
  have first : mounting = .aboutX ↔ 1 ≤ value ∧ value < 2 :=
    Mounting.ofParameter_eq_iff (by decide) isWhole_one isWhole_two
  have second : mounting = .aboutY ↔ 2 ≤ value ∧ value < 3 :=
    Mounting.ofParameter_eq_iff (by decide) isWhole_two isWhole_three
  refine ⟨first, second, ?_, Mounting.ofParameter_of_outside⟩
  rw [← first, ← second]
  cases mounting <;> decide

end TwoWire.Magnetometer
