import TwoWire.Magnetometer.Parameter
import TwoWire.Magnetometer.Trigonometry

/-! From averaged counts to calibrated field strength.

A vector passes four stages: the bias is added, the couplings of the axes are undone, each axis is
divided by its scale, and the mounting is turned back. Bias and scale depend on the temperature.
-/

namespace TwoWire.Magnetometer

inductive Mounting where
  /-- Face up. -/
  | normal
  /-- Upside down about the first axis. -/
  | aboutX
  /-- Upside down about the second axis. -/
  | aboutY
deriving DecidableEq, Repr

namespace Mounting

/-- The mounting with a given code; unknown codes mean face up. -/
def ofCode (code : UInt8) : Mounting :=
  match code with
  | 1 => aboutX
  | 2 => aboutY
  | _ => normal

/-- The mounting that a parameter asks for. The fraction is dropped, and what is no code at all,
because it is negative, too large or no number, means face up.
-/
def ofParameter (value : Float32) : Mounting :=
  if 0 ≤ value ∧ value ≤ 255 then ofCode value.toUInt8 else normal

def signs : Mounting → Axes Float32
  | normal => ⟨1, 1, 1⟩
  | aboutX => ⟨1, -1, -1⟩
  | aboutY => ⟨-1, 1, -1⟩

def name : Mounting → String
  | normal => "Normal"
  | aboutX => "AboutX"
  | aboutY => "AboutY"

end Mounting

structure Cubic where
  c0 : Float32
  c1 : Float32
  c2 : Float32
  c3 : Float32

namespace Cubic

def constant (value : Float32) : Cubic := ⟨value, 0, 0, 0⟩

def ofFn (coefficient : Fin 4 → Float32) : Cubic :=
  ⟨coefficient 0, coefficient 1, coefficient 2, coefficient 3⟩

/-- The coefficients, lowest power first. -/
def toList (cubic : Cubic) : List Float32 :=
  [cubic.c0, cubic.c1, cubic.c2, cubic.c3]

/-- The value at a temperature, from the highest power down. -/
def eval (cubic : Cubic) (temperature : Float32) : Float32 :=
  cubic.c0 + temperature * (cubic.c1 + temperature * (cubic.c2 + temperature * cubic.c3))

end Cubic

/-- How strongly each axis is seen along each other one. -/
structure Alignment where
  xy : Float32
  xz : Float32
  yx : Float32
  yz : Float32
  zx : Float32
  zy : Float32

namespace Alignment

def ofFn (share : Coupling → Float32) : Alignment :=
  ⟨share .xy, share .xz, share .yx, share .yz, share .zx, share .zy⟩

/-- The shares in the order of the couplings. -/
def toList (alignment : Alignment) : List Float32 :=
  [alignment.xy, alignment.xz, alignment.yx, alignment.yz, alignment.zx, alignment.zy]

end Alignment

/-- A rotation about the third axis. -/
structure Rotation where
  cos : Float32
  sin : Float32

def Rotation.ofDegrees (degrees : Float32) : Rotation :=
  let radians := degrees * Trigonometry.radiansPerDegree
  ⟨Trigonometry.cosine radians, Trigonometry.sine radians⟩

/-- Everything that turns averaged counts into calibrated field strength. -/
structure Calibration where
  bias : Axes Cubic
  alignment : Alignment
  scale : Axes Cubic
  rotation : Rotation
  mounting : Mounting

namespace Calibration

/-- No bias, no coupling, unit scale and no rotation. -/
def identity : Calibration where
  bias := .replicate (.constant 0)
  alignment := .ofFn fun _ => 0
  scale := .replicate (.constant 1)
  rotation := ⟨1, 0⟩
  mounting := .normal

/-- The calibration that a table of parameters describes. -/
def load (table : ParameterTable) : Calibration where
  bias := .ofFn fun axis => .ofFn fun power => table.get (.bias axis power)
  alignment := .ofFn fun coupling => table.get (.align coupling)
  scale := .ofFn fun axis => .ofFn fun power => table.get (.scale axis power)
  rotation := .ofDegrees (table.get .rotation)
  mounting := .ofParameter (table.get .mounting)

/-- Add the bias at a temperature. The third axis is wired inverted and the vector is corrected
for that already, so its bias enters with the opposite sign.
-/
def addBias (model : Calibration) (v : Axes Float32) (temperature : Float32) : Axes Float32 where
  x := v.x + model.bias.x.eval temperature
  y := v.y + model.bias.y.eval temperature
  z := v.z - model.bias.z.eval temperature

/-- Undo the couplings of the axes. -/
def align (model : Calibration) (v : Axes Float32) : Axes Float32 :=
  let a := model.alignment
  { x := v.x + v.y * a.xy + v.z * a.xz
    y := v.x * a.yx + v.y + v.z * a.yz
    z := v.x * a.zx + v.y * a.zy + v.z }

def divideByScale (model : Calibration) (v : Axes Float32) (temperature : Float32)
    : Axes Float32 where
  x := v.x / model.scale.x.eval temperature
  y := v.y / model.scale.y.eval temperature
  z := v.z / model.scale.z.eval temperature

/-- Turn the mounting back. -/
def turnBack (model : Calibration) (v : Axes Float32) : Axes Float32 :=
  let r := model.rotation
  { x := v.x * r.cos - v.y * r.sin
    y := v.y * r.cos + v.x * r.sin
    z := v.z }

def correct (model : Calibration) (v : Axes Float32) (temperature : Float32) : Axes Float32 :=
  let biased := model.addBias v temperature
  model.turnBack (model.divideByScale (model.align biased) temperature)

end Calibration

end TwoWire.Magnetometer
