import TwoWire.Axes

/-! The table of parameters from which a calibration is loaded, entry by entry. -/

namespace TwoWire.Magnetometer

/-- How one axis leaks into another: `xy` is the share of y that is seen along x. -/
inductive Coupling where
  | xy
  | xz
  | yx
  | yz
  | zx
  | zy
deriving DecidableEq, Repr

/-- An entry of the parameter table. -/
inductive Parameter where
  /-- A coefficient of the bias of an axis, by its power of the temperature. -/
  | bias (axis : Axis) (power : Fin 4)
  | align (coupling : Coupling)
  /-- A coefficient of the scale of an axis, by its power of the temperature. -/
  | scale (axis : Axis) (power : Fin 4)
  | mounting
  /-- The rotation of the mounting about the third axis in degrees. -/
  | rotation
deriving DecidableEq, Repr

def axisLetter : Axis → String
  | .x => "X"
  | .y => "Y"
  | .z => "Z"

namespace Coupling

def all : List Coupling := [xy, xz, yx, yz, zx, zy]

def index : Coupling → Fin 6
  | xy => 0
  | xz => 1
  | yx => 2
  | yz => 3
  | zx => 4
  | zy => 5

def letters : Coupling → String
  | xy => "XY"
  | xz => "XZ"
  | yx => "YX"
  | yz => "YZ"
  | zx => "ZX"
  | zy => "ZY"

end Coupling

namespace Parameter

def count : Nat := 32

def index : Parameter → Fin 32
  | bias axis power => ⟨4 * axis.index.val + power.val, by omega⟩
  | align coupling => ⟨12 + coupling.index.val, by omega⟩
  | scale axis power => ⟨18 + 4 * axis.index.val + power.val, by omega⟩
  | mounting => 30
  | rotation => 31

/-- The four coefficients of an axis, lowest power first. -/
def powers (entry : Axis → Fin 4 → Parameter) (axis : Axis) : List Parameter :=
  (List.finRange 4).map (entry axis)

def all : List Parameter :=
  [Axis.x, .y, .z].flatMap (powers bias) ++ Coupling.all.map align
    ++ [Axis.x, .y, .z].flatMap (powers scale) ++ [mounting, rotation]

def name : Parameter → String
  | bias axis power => "Bias" ++ axisLetter axis ++ toString power.val
  | align coupling => "Align" ++ coupling.letters
  | scale axis power => "Scale" ++ axisLetter axis ++ toString power.val
  | mounting => "Flip"
  | rotation => "Rotation"

/-- The entries are listed by their places, by evaluation. -/
theorem map_index_all
    : all.map (fun param => param.index.val) = List.range count := by
  decide

end Parameter

/-- A table of parameters, one number in each place. -/
structure ParameterTable where
  values : Vector Float32 32
deriving DecidableEq

namespace ParameterTable

def get (table : ParameterTable) (param : Parameter) : Float32 :=
  table.values[param.index]

def ofFn (value : Parameter → Float32) : ParameterTable :=
  ⟨Vector.ofFn fun place => value (Parameter.all.getD place.val .rotation)⟩

end ParameterTable

end TwoWire.Magnetometer
