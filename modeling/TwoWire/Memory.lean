import TwoWire.SampleRing

/-! The memory that transfers move bytes from and to.

Windows name a part of a region and not its contents, so a transfer that ends later sees and
changes the memory as it is then. Writing never changes the size of a region.
-/

namespace TwoWire

/-- A piece of memory with an address of its own. -/
inductive Region where
  | buffer (index : Nat)
  | ring (index : Nat)
deriving DecidableEq, Repr

/-- A contiguous part of a region, handed to a transfer. -/
structure Window where
  region : Region
  offset : Nat
  length : Nat
deriving DecidableEq, Repr

/-- Replace the bytes from `offset` on by `data`, as far as both reach. -/
def overwrite (bytes : List UInt8) (offset : Nat) (data : List UInt8) : List UInt8 :=
  bytes.mapIdx fun position byte =>
    if offset ≤ position then data.getD (position - offset) byte else byte

/-- Overwriting keeps the size, since each byte is replaced in its place. -/
@[simp] theorem length_overwrite (bytes : List UInt8) (offset : Nat) (data : List UInt8)
    : (overwrite bytes offset data).length = bytes.length := by
  simp [overwrite]

/-- Overwriting with nothing changes nothing, since every byte keeps its own value. -/
@[simp] theorem overwrite_nil (bytes : List UInt8) (offset : Nat)
    : overwrite bytes offset [] = bytes := by
  apply List.ext_getElem
  · simp
  · intro position _ _
    simp [overwrite]

/-- The byte at a position after overwriting, by looking up that position. -/
theorem getElem?_overwrite (bytes : List UInt8) (offset : Nat) (data : List UInt8) (position : Nat)
    : (overwrite bytes offset data)[position]?
      = bytes[position]?.map fun byte =>
          if offset ≤ position then data.getD (position - offset) byte else byte := by
  simp [overwrite]

/-- All memory that transfers can reach. -/
structure Memory where
  buffers : List (List UInt8)
  rings : List SampleRing
deriving DecidableEq, Repr

namespace Memory

/-- The bytes of a region; a region that does not exist has none. -/
def bytes (memory : Memory) : Region → List UInt8
  | .buffer index => memory.buffers.getD index []
  | .ring index => (memory.rings[index]?.map SampleRing.bytes).getD []

/-- A sample ring; one that does not exist is like a new one. -/
def ring (memory : Memory) (index : Nat) : SampleRing :=
  memory.rings.getD index .new

def modify (memory : Memory) (change : List UInt8 → List UInt8) : Region → Memory
  | .buffer index => { memory with buffers := memory.buffers.modify index change }
  | .ring index =>
    { memory with
      rings := memory.rings.modify index fun ring => { ring with bytes := change ring.bytes } }

def read (memory : Memory) (window : Window) : List UInt8 :=
  ((memory.bytes window.region).drop window.offset).take window.length

/-- The first byte in a window now; memory that is not there reads as zero. -/
def first (memory : Memory) (window : Window) : UInt8 :=
  (memory.read window).headD 0

/-- Write `data` from the start of a window on; what exceeds the window is dropped. -/
def write (memory : Memory) (window : Window) (data : List UInt8) : Memory :=
  memory.modify (overwrite · window.offset (data.take window.length)) window.region

def advanceRing (memory : Memory) (index : Nat) : Memory :=
  { memory with rings := memory.rings.modify index SampleRing.advance }

/-- Writing through a window leaves every other region alone, by cases on both regions. -/
theorem bytes_write_of_ne {memory : Memory} {window : Window} {region : Region}
    (other : region ≠ window.region) (data : List UInt8)
    : (memory.write window data).bytes region = memory.bytes region := by
  obtain ⟨target, offset, length⟩ := window
  cases target with
  | buffer index =>
      cases region with
      | buffer place =>
          have distinct : index ≠ place := fun same => other (congrArg Region.buffer same.symm)
          simp [write, modify, bytes, distinct]
      | ring place => rfl
  | ring index =>
      cases region with
      | buffer place => rfl
      | ring place =>
          have distinct : index ≠ place := fun same => other (congrArg Region.ring same.symm)
          simp [write, modify, bytes, distinct]

/-- Writing through a window overwrites the region of the window, by cases on that region. -/
theorem bytes_write_self (memory : Memory) (window : Window) (data : List UInt8)
    : (memory.write window data).bytes window.region
      = overwrite (memory.bytes window.region) window.offset (data.take window.length) := by
  obtain ⟨target, offset, length⟩ := window
  cases target with
  | buffer index =>
      cases found : memory.buffers[index]? <;> simp [write, modify, bytes, found, overwrite]
  | ring index =>
      cases found : memory.rings[index]? <;> simp [write, modify, bytes, found, overwrite]

/-- Writing keeps the size of every region, since overwriting does. -/
theorem length_bytes_write (memory : Memory) (window : Window) (data : List UInt8)
    (region : Region)
    : ((memory.write window data).bytes region).length = (memory.bytes region).length := by
  by_cases same : region = window.region
  · rw [same, bytes_write_self, length_overwrite]
  · rw [bytes_write_of_ne same]

end Memory

end TwoWire
