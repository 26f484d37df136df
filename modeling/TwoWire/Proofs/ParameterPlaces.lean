import Mathlib.Data.List.Nodup
import TwoWire.Magnetometer.Calibration

/-! Every entry of a parameter table reaches one part of the calibration, and none reaches another.

Loading puts thirty of the entries into the coefficients as they are, whatever they are, and
decides the mounting and the rotation by one further entry each. So a change of one entry is a
change of what belongs to it and of nothing else.
-/

namespace TwoWire.Magnetometer

-----------------------------------------------------------------------------------------
-- Places of parameters
-----------------------------------------------------------------------------------------

namespace Parameter

/-- The parameters that are coefficients: the bias of each axis, the couplings, and the scale of
each axis.
-/
def coefficients : List Parameter :=
  [Axis.x, .y, .z].flatMap (powers bias) ++ Coupling.all.map align
    ++ [Axis.x, .y, .z].flatMap (powers scale)

theorem mem_all (param : Parameter)
    : param ∈ all := by
  cases param with
  | bias axis power | scale axis power => cases axis <;> decide +revert
  | align coupling => cases coupling <;> decide
  | mounting | rotation => decide

/-- No two parameters have one place, since the list of their places has none twice. -/
theorem index_injective {first second : Parameter} (same : first.index = second.index)
    : first = second := by
  have once : (all.map fun param => param.index.val).Nodup := by
    rw [map_index_all]
    exact List.nodup_range
  exact List.inj_on_of_nodup_map once (mem_all first) (mem_all second) (congrArg Fin.val same)

/-- The coefficients have the first places, in their order, by evaluation. -/
theorem map_index_coefficients
    : coefficients.map index = (List.finRange 32).take 30 := by
  decide

end Parameter

-----------------------------------------------------------------------------------------
-- Coefficients
-----------------------------------------------------------------------------------------

/-- The coefficients of a calibration, with anything in their places. -/
structure Coefficients (α : Type) where
  bias : Axis → Fin 4 → α
  alignment : Coupling → α
  scale : Axis → Fin 4 → α

namespace Coefficients

variable {α β : Type}

/-- The bias of each axis from the lowest power up, the couplings, and the scale of each axis. -/
def toList (coefficients : Coefficients α) : List α :=
  [Axis.x, .y, .z].flatMap (fun axis => (List.finRange 4).map (coefficients.bias axis))
    ++ Coupling.all.map coefficients.alignment
    ++ [Axis.x, .y, .z].flatMap (fun axis => (List.finRange 4).map (coefficients.scale axis))

/-- Take each coefficient from the place of its parameter. -/
def load (entries : Vector α 32) : Coefficients α where
  bias axis power := entries[(Parameter.bias axis power).index]
  alignment coupling := entries[(Parameter.align coupling).index]
  scale axis power := entries[(Parameter.scale axis power).index]

def map (f : α → β) (coefficients : Coefficients α) : Coefficients β where
  bias axis power := f (coefficients.bias axis power)
  alignment coupling := f (coefficients.alignment coupling)
  scale axis power := f (coefficients.scale axis power)

theorem load_map (f : α → β) (entries : Vector α 32)
    : load (entries.map f) = (load entries).map f := by
  simp [load, map]

theorem toList_eq_map (entries : Vector α 32)
    : (load entries).toList
      = (Parameter.coefficients.map Parameter.index).map fun place => entries[place] := by
  rfl

/-- The coefficients are the first thirty entries in their order. -/
theorem toList_load (entries : Vector α 32)
    : (load entries).toList = entries.toList.take 30 := by
  have places : entries.toList = (List.finRange 32).map fun place => entries[place] :=
    List.ext_getElem (by simp) (by simp)
  rw [toList_eq_map, Parameter.map_index_coefficients, places, List.map_take]

end Coefficients

-----------------------------------------------------------------------------------------
-- What a parameter decides
-----------------------------------------------------------------------------------------

/-- The part of a calibration that belongs to one parameter. -/
inductive Share where
  | coefficient (value : Float32)
  | mounting (mounting : Mounting)
  | rotation (rotation : Rotation)

/-- What an entry of a table says for its parameter. -/
def Parameter.share (param : Parameter) (entry : Float32) : Share :=
  match param with
  | bias _ _ | align _ | scale _ _ => .coefficient entry
  | mounting => .mounting (.ofParameter entry)
  | rotation => .rotation (.ofDegrees entry)

def Parameter.isCoefficient : Parameter → Bool
  | bias _ _ | align _ | scale _ _ => true
  | mounting | rotation => false

/-- The coefficient of a power of the temperature. -/
def Cubic.get (cubic : Cubic) : Fin 4 → Float32
  | 0 => cubic.c0
  | 1 => cubic.c1
  | 2 => cubic.c2
  | 3 => cubic.c3

def Alignment.get (alignment : Alignment) : Coupling → Float32
  | .xy => alignment.xy
  | .xz => alignment.xz
  | .yx => alignment.yx
  | .yz => alignment.yz
  | .zx => alignment.zx
  | .zy => alignment.zy

theorem Cubic.get_ofFn (coefficient : Fin 4 → Float32) (power : Fin 4)
    : (ofFn coefficient).get power = coefficient power := by
  match power with
  | 0 | 1 | 2 | 3 => rfl

theorem Alignment.get_ofFn (share : Coupling → Float32) (coupling : Coupling)
    : (ofFn share).get coupling = share coupling := by
  cases coupling <;> rfl

/-- Two cubics with the same coefficients are equal, power by power. -/
theorem Cubic.ext_get {left right : Cubic} (agree : ∀ power, left.get power = right.get power)
    : left = right := by
  cases left
  cases right
  simp only [Cubic.mk.injEq]
  exact ⟨agree 0, agree 1, agree 2, agree 3⟩

/-- Two alignments with the same shares are equal, coupling by coupling. -/
theorem Alignment.ext_get {left right : Alignment}
    (agree : ∀ coupling, left.get coupling = right.get coupling)
    : left = right := by
  cases left
  cases right
  simp only [Alignment.mk.injEq]
  exact ⟨agree .xy, agree .xz, agree .yx, agree .yz, agree .zx, agree .zy⟩

namespace Calibration

def coefficients (model : Calibration) : Coefficients Float32 where
  bias axis := (model.bias.get axis).get
  alignment := model.alignment.get
  scale axis := (model.scale.get axis).get

/-- The bias of each axis, the couplings and the scale of each axis, one after the other. -/
def flatten (model : Calibration) : List Float32 :=
  model.bias.toList.flatMap Cubic.toList ++ model.alignment.toList
    ++ model.scale.toList.flatMap Cubic.toList

theorem flatten_eq (model : Calibration)
    : model.flatten = model.coefficients.toList := rfl

/-- The part of a calibration that belongs to a parameter. -/
def share (model : Calibration) : Parameter → Share
  | .bias axis power => .coefficient (model.coefficients.bias axis power)
  | .align coupling => .coefficient (model.coefficients.alignment coupling)
  | .scale axis power => .coefficient (model.coefficients.scale axis power)
  | .mounting => .mounting model.mounting
  | .rotation => .rotation model.rotation

theorem coefficients_load (table : ParameterTable)
    : (load table).coefficients = .load table.values := by
  have cubic (entries : Axis → Fin 4 → Float32) (axis : Axis)
      : ((Axes.ofFn fun axis => Cubic.ofFn (entries axis)).get axis).get = entries axis := by
    rw [Axes.get_ofFn]
    exact funext (Cubic.get_ofFn _)
  simp only [coefficients, load, cubic, Coefficients.load, Coefficients.mk.injEq]
  exact ⟨rfl, funext (Alignment.get_ofFn _), rfl⟩

/-- Each part of a loaded calibration is decided by the entry of its parameter. -/
theorem share_load (table : ParameterTable) (param : Parameter)
    : (load table).share param = param.share (table.get param) := by
  cases param with
  | bias | align | scale =>
      rw [share, coefficients_load]
      rfl
  | mounting | rotation => rfl

/-- Nothing in a calibration belongs to no parameter. -/
theorem ext_share {left right : Calibration}
    (agree : ∀ param, left.share param = right.share param)
    : left = right := by
  have cubics {left right : Axes Cubic}
      (agree : ∀ axis power, (left.get axis).get power = (right.get axis).get power)
      : left = right :=
    Axes.ext_get fun axis => Cubic.ext_get (agree axis)
  have bias := cubics fun axis power => Share.coefficient.inj (agree (.bias axis power))
  have alignment :=
    Alignment.ext_get fun coupling => Share.coefficient.inj (agree (.align coupling))
  have scale := cubics fun axis power => Share.coefficient.inj (agree (.scale axis power))
  have rotation := Share.rotation.inj (agree .rotation)
  have mounting := Share.mounting.inj (agree .mounting)
  cases left
  cases right
  simp only [Calibration.mk.injEq]
  exact ⟨bias, alignment, scale, rotation, mounting⟩

/-- The coefficients of a loaded calibration are the first thirty entries as they are and in their
order, also where the entries are words that were not read as numbers yet; the two last entries
decide the mounting and the rotation. If two tables differ in one entry at most, the calibrations
differ at most in what belongs to it, and they do differ there if it is a coefficient. There is
nothing else in a calibration.
-/
theorem entries_decide_their_parts (table other : ParameterTable) (param : Parameter)
    : ((load table).flatten = table.values.toList.take 30
        ∧ (load table).mounting = .ofParameter table.values[30]
        ∧ (load table).rotation = .ofDegrees table.values[31])
      ∧ (∀ words : Vector UInt32 32,
          (Coefficients.load words).toList = words.toList.take 30
          ∧ (load ⟨words.map .ofBits⟩).coefficients = (Coefficients.load words).map .ofBits)
      ∧ ((∀ place : Fin 32, place ≠ param.index → table.values[place] = other.values[place])
          → (∀ further, further ≠ param → (load table).share further = (load other).share further)
            ∧ (param.isCoefficient = true
              → (table.get param).toBits ≠ (other.get param).toBits
              → (load table).share param ≠ (load other).share param))
      ∧ ∀ left right : Calibration,
          (∀ param, left.share param = right.share param) → left = right := by
  refine ⟨⟨?_, rfl, rfl⟩, ?_, ?_, fun _ _ => ext_share⟩
  · rw [flatten_eq, coefficients_load, Coefficients.toList_load]
  · intro words
    refine ⟨Coefficients.toList_load words, ?_⟩
    rw [coefficients_load, Coefficients.load_map]
  · intro agree
    constructor
    · intro further distinct
      have entry : table.get further = other.get further :=
        agree further.index fun same => distinct (Parameter.index_injective same)
      rw [share_load, share_load, entry]
    · intro numeric differ same
      rw [share_load, share_load] at same
      cases param with
      | bias | align | scale =>
          exact differ (congrArg Float32.toBits (Share.coefficient.inj same))
      | mounting | rotation => cases numeric

end Calibration

end TwoWire.Magnetometer
