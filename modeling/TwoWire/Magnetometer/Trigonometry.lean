/-! Sine and cosine of single precision numbers by a parabola that is corrected once.

Every operation rounds to single precision, so the order of the operations is part of the result.
-/

namespace TwoWire.Magnetometer.Trigonometry

/-- The whole part toward zero, at most the largest and at least the least 32-bit integer, and
zero for what is no number.
-/
def truncate (value : Float32) : Int32 :=
  (Float32.Model.ofBits value.toBits).toInt32

/-- The greatest whole number that is not above the value, as far as 32-bit integers reach. -/
def floor (value : Float32) : Float32 :=
  let whole := Float32.ofInt (truncate value).toInt
  if value < whole then whole - 1 else whole

/-- The number of turns in a radian, 1 / 2π. -/
def turnsPerRadian : Float32 := Float32.ofBits 0x3e22f983

/-- A quarter turn in radians, π / 2. -/
def quarterTurn : Float32 := Float32.ofBits 0x3fc90fdb

/-- A degree in radians, π / 180. -/
def radiansPerDegree : Float32 := Float32.ofBits 0x3c8efa35

/-- The weight of the correction, chosen for the least error. -/
def correction : Float32 := Float32.ofBits 0x3e666666

/-- The cosine of an angle in radians. The angle is taken in turns and shifted into one period,
where a parabola stands for the wave and is then bent toward it.
-/
def cosine (radians : Float32) : Float32 :=
  let turns := radians * turnsPerRadian
  let phase := turns - (0.25 + floor (turns + 0.25))
  let parabola := phase * (16 * (phase.abs - 0.5))
  parabola + (correction * parabola) * (parabola.abs - 1)

/-- The sine of an angle in radians, which is the cosine a quarter turn earlier. -/
def sine (radians : Float32) : Float32 :=
  cosine (radians - quarterTurn)

end TwoWire.Magnetometer.Trigonometry
