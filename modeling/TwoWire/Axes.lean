/-! Values given along the three axes of a sensor. -/

namespace TwoWire

inductive Axis where
  | x
  | y
  | z
deriving DecidableEq, Repr

/-- The number of an axis, counted from zero. -/
def Axis.index : Axis → Fin 3
  | x => 0
  | y => 1
  | z => 2

/-- One value for each axis. -/
structure Axes (α : Type) where
  x : α
  y : α
  z : α
deriving DecidableEq, Repr

namespace Axes

variable {α β γ : Type}

def get (values : Axes α) : Axis → α
  | .x => values.x
  | .y => values.y
  | .z => values.z

def ofFn (value : Axis → α) : Axes α :=
  ⟨value .x, value .y, value .z⟩

def replicate (value : α) : Axes α :=
  ofFn fun _ => value

def map (f : α → β) (values : Axes α) : Axes β :=
  ⟨f values.x, f values.y, f values.z⟩

@[simp] theorem get_ofFn (value : Axis → α) (axis : Axis)
    : (ofFn value).get axis = value axis := by
  cases axis <;> rfl

/-- Two vectors with the same components are equal, axis by axis. -/
theorem ext_get {left right : Axes α} (agree : ∀ axis, left.get axis = right.get axis)
    : left = right := by
  cases left
  cases right
  simp only [mk.injEq]
  exact ⟨agree .x, agree .y, agree .z⟩

def zipWith (f : α → β → γ) (left : Axes α) (right : Axes β) : Axes γ :=
  ⟨f left.x right.x, f left.y right.y, f left.z right.z⟩

theorem get_zipWith (f : α → β → γ) (left : Axes α) (right : Axes β) (axis : Axis)
    : (zipWith f left right).get axis = f (left.get axis) (right.get axis) := by
  cases axis <;> rfl

def toList (values : Axes α) : List α :=
  [values.x, values.y, values.z]

end Axes

end TwoWire
