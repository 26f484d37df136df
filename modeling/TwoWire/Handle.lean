/-! Slave handles, and the one-byte cell that holds a handle or nothing. -/

namespace TwoWire

/-- The place of a slave in the table, kept in one byte. -/
structure Handle where
  code : UInt8
deriving DecidableEq, Repr

namespace Handle

def index (handle : Handle) : Nat :=
  handle.code.toNat

/-- The handle of a place; a table has fewer than 255 places, so none is lost in the byte. -/
def ofIndex (index : Nat) : Handle :=
  ⟨index.toUInt8⟩

end Handle

/-- A cell of one byte in which the value 255 stands for no handle. -/
structure HandleCell where
  raw : UInt8
deriving DecidableEq, Repr

namespace HandleCell

def vacant : UInt8 := 255

def empty : HandleCell := ⟨vacant⟩

def load (cell : HandleCell) : Option Handle :=
  if cell.raw = vacant then none else some ⟨cell.raw⟩

def store : Option Handle → HandleCell
  | none => empty
  | some handle => ⟨handle.code⟩

/-- Empty the cell and answer what it held. -/
def take (cell : HandleCell) : Option Handle × HandleCell :=
  (cell.load, empty)

/-- Store a handle if the cell is empty; the answer says whether it was. -/
def trySet (cell : HandleCell) (handle : Handle) : Bool × HandleCell :=
  if cell.raw = vacant then (true, ⟨handle.code⟩) else (false, cell)

def isSome (cell : HandleCell) : Bool :=
  cell.raw != vacant

@[simp] theorem load_empty
    : empty.load = none := rfl

/-- Only the empty cell holds nothing, since loading looks at the whole byte. -/
theorem load_eq_none_iff {cell : HandleCell}
    : cell.load = none ↔ cell = empty := by
  obtain ⟨raw⟩ := cell
  simp [load, empty]

/-- A stored handle is loaded again, unless its byte is the one that stands for no handle. -/
theorem load_store_some {handle : Handle} (proper : handle.code ≠ vacant)
    : (store (some handle)).load = some handle := by
  simp [store, load, proper]

/-- A cell is occupied exactly when loading it gives a handle, by cases on its byte. -/
theorem isSome_eq (cell : HandleCell)
    : cell.isSome = cell.load.isSome := by
  by_cases h : cell.raw = vacant <;> simp [isSome, load, h]

/-- A cell that holds nothing takes the handle, by the test on its byte. -/
theorem trySet_of_load_eq_none {cell : HandleCell} (free : cell.load = none) (handle : Handle)
    : cell.trySet handle = (true, store (some handle)) := by
  rw [load_eq_none_iff.mp free]
  rfl

/-- A cell that holds a handle keeps it, by the test on its byte. -/
theorem trySet_of_load_eq_some {cell : HandleCell} {owner : Handle}
    (held : cell.load = some owner) (handle : Handle)
    : cell.trySet handle = (false, cell) := by
  have occupied : cell.raw ≠ vacant := by
    intro same
    simp [load, same] at held
  simp [trySet, occupied]

end HandleCell

end TwoWire
