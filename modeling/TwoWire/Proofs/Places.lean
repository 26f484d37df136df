import Mathlib.Data.Set.BooleanAlgebra
import Mathlib.Order.CompletePartialOrder
import TwoWire.Proofs.RingSlots

/-! Memory place by place: what an access reads, what it changes and what it leaves alone.

A place is a byte of a region or the cursor of a ring. Two memories of the same shape that agree in
every place are equal, so what is done in separate parts of the memory can be done in either order.
-/

namespace TwoWire

/-- Something in memory that can differ by itself. -/
inductive Place where
  | byte (region : Region) (position : Nat)
  | cursor (ring : Nat)
deriving DecidableEq, Repr

/-- The bytes of a window, whether or not its region reaches that far. -/
def Window.places (window : Window) : Set Place :=
  { place | ∃ position, window.offset ≤ position ∧ position < window.offset + window.length
    ∧ place = .byte window.region position }

/-- Rings with the same bytes and the same cursor are equal, field by field. -/
theorem SampleRing.ext {ring other : SampleRing} (bytes : ring.bytes = other.bytes)
    (cursor : ring.cursor = other.cursor)
    : ring = other := by
  cases ring
  cases other
  rw [mk.injEq]
  exact ⟨bytes, cursor⟩

namespace Memory

/-- Two memories hold the same in one place, which need not exist in either. -/
def SameAt (memory other : Memory) : Place → Prop
  | .byte region position => (memory.bytes region)[position]? = (other.bytes region)[position]?
  | .cursor ring => memory.rings[ring]?.map (·.cursor) = other.rings[ring]?.map (·.cursor)

/-- Two memories hold the same in a part of them. -/
def Agrees (area : Set Place) (memory other : Memory) : Prop :=
  ∀ place ∈ area, memory.SameAt other place

/-- There are as many regions, and outside of a part of the memory nothing is different. -/
structure Spares (area : Set Place) (memory next : Memory) : Prop where
  buffers : next.buffers.length = memory.buffers.length
  rings : next.rings.length = memory.rings.length
  places : ∀ place, place ∉ area → memory.SameAt next place

variable {memory other middle next : Memory} {area elsewhere : Set Place} {window : Window}
  {place : Place}

theorem SameAt.refl (memory : Memory) (place : Place)
    : memory.SameAt memory place := by
  cases place <;> rfl

theorem SameAt.symm (same : memory.SameAt other place)
    : other.SameAt memory place := by
  cases place <;> exact Eq.symm same

theorem SameAt.trans (head : memory.SameAt middle place) (tail : middle.SameAt next place)
    : memory.SameAt next place := by
  cases place <;> exact Eq.trans head tail

theorem Spares.refl (area : Set Place) (memory : Memory)
    : memory.Spares area memory :=
  ⟨rfl, rfl, fun place _ => .refl memory place⟩

theorem Spares.trans (head : Spares area memory middle) (tail : Spares area middle next)
    : Spares area memory next where
  buffers := tail.buffers.trans head.buffers
  rings := tail.rings.trans head.rings
  places place outside := (head.places place outside).trans (tail.places place outside)

/-- What spares all but one part agrees on every part that is apart from it. -/
theorem Spares.agrees (spares : Spares area memory next) (apart : Disjoint area elsewhere)
    : Agrees elsewhere memory next :=
  fun place inside => spares.places place (Set.disjoint_right.mp apart inside)

/-- Memories of the same shape that agree in every place are equal. -/
theorem eq_of_sameAt (buffers : memory.buffers.length = other.buffers.length)
    (rings : memory.rings.length = other.rings.length)
    (same : ∀ place, memory.SameAt other place)
    : memory = other := by
  have sameBuffers : memory.buffers = other.buffers := by
    refine List.ext_getElem buffers (fun index inside otherInside => List.ext_getElem? ?_)
    intro position
    simpa [SameAt, bytes, inside, otherInside] using same (.byte (.buffer index) position)
  have sameRings : memory.rings = other.rings := by
    refine List.ext_getElem rings (fun index inside otherInside => SampleRing.ext ?_ ?_)
    · refine List.ext_getElem? (fun position => ?_)
      simpa [SameAt, bytes, inside, otherInside] using same (.byte (.ring index) position)
    · simpa [SameAt, inside, otherInside] using same (.cursor index)
  cases memory
  cases other
  rw [mk.injEq]
  exact ⟨sameBuffers, sameRings⟩

-----------------------------------------------------------------------------------------
-- Accesses through a window
-----------------------------------------------------------------------------------------

/-- Reading sees the places of the window only. -/
theorem read_congr (agrees : Agrees area memory other) (inside : window.places ⊆ area)
    : other.read window = memory.read window := by
  refine List.ext_getElem? (fun position => ?_)
  simp only [read, List.getElem?_take, List.getElem?_drop]
  split
  · rename_i within
    exact (agrees _ (inside ⟨window.offset + position, by omega, by omega, rfl⟩)).symm
  · rfl

theorem first_congr (agrees : Agrees area memory other) (inside : window.places ⊆ area)
    : other.first window = memory.first window := by
  rw [first, read_congr agrees inside, first]

/-- Writing looks at each byte of the window alone, and at no other. -/
theorem getElem?_bytes_write (memory : Memory) (window : Window) (data : List UInt8)
    (region : Region) (position : Nat)
    : ((memory.write window data).bytes region)[position]?
      = if region = window.region ∧ window.offset ≤ position
            ∧ position < window.offset + window.length then
          (memory.bytes region)[position]?.map
            fun byte => (data.take window.length).getD (position - window.offset) byte
        else (memory.bytes region)[position]? := by
  by_cases here : region = window.region
  · subst here
    rw [bytes_write_self, getElem?_overwrite]
    by_cases early : window.offset ≤ position
    · by_cases late : position < window.offset + window.length
      · simp [early, late]
      · have past : (data.take window.length).length ≤ position - window.offset := by
          simp only [List.length_take]
          omega
        simp [early, late, List.getElem?_eq_none past]
    · simp [early]
  · rw [bytes_write_of_ne here]
    simp [here]

/-- Writing moves no cursor, by cases on the region. -/
theorem cursor?_write (memory : Memory) (window : Window) (data : List UInt8) (ring : Nat)
    : (memory.write window data).rings[ring]?.map (·.cursor)
      = memory.rings[ring]?.map (·.cursor) := by
  obtain ⟨region, offset, length⟩ := window
  cases region with
  | buffer index => rfl
  | ring index =>
      simp only [write, modify, List.getElem?_modify]
      cases memory.rings[ring]? with
      | none => simp
      | some entry => by_cases here : index = ring <;> simp [here]

theorem spares_write (memory : Memory) (inside : window.places ⊆ area) (data : List UInt8)
    : memory.Spares area (memory.write window data) where
  buffers := by
    obtain ⟨region, _, _⟩ := window
    cases region <;> simp [write, modify]
  rings := by
    obtain ⟨region, _, _⟩ := window
    cases region <;> simp [write, modify]
  places place outside := by
    cases place with
    | byte region position =>
        rw [SameAt, getElem?_bytes_write, if_neg]
        rintro ⟨rfl, early, late⟩
        exact outside (inside ⟨position, early, late, rfl⟩)
    | cursor ring => exact (memory.cursor?_write window data ring).symm

/-- What is written in a place depends on what was there and on nothing else. -/
theorem agrees_write (agrees : Agrees area memory other) (window : Window) (data : List UInt8)
    : Agrees area (memory.write window data) (other.write window data) := by
  intro place inside
  have same := agrees place inside
  cases place with
  | byte region position =>
      simp only [SameAt] at same
      rw [SameAt, getElem?_bytes_write, getElem?_bytes_write, same]
  | cursor ring =>
      rw [SameAt, cursor?_write, cursor?_write]
      exact same

-----------------------------------------------------------------------------------------
-- Rings that move on
-----------------------------------------------------------------------------------------

theorem cursor?_advanceRing (memory : Memory) (index ring : Nat)
    : (memory.advanceRing index).rings[ring]?.map (·.cursor)
      = memory.rings[ring]?.map fun entry =>
          if index = ring then entry.cursor + 1 else entry.cursor := by
  simp only [advanceRing, List.getElem?_modify]
  cases memory.rings[ring]? with
  | none => simp
  | some entry => by_cases here : index = ring <;> simp [here, SampleRing.advance]

theorem spares_advanceRing (memory : Memory) {index : Nat} (inside : .cursor index ∈ area)
    : memory.Spares area (memory.advanceRing index) where
  buffers := rfl
  rings := by simp [advanceRing]
  places place outside := by
    cases place with
    | byte region position => simp [SameAt]
    | cursor ring =>
        have apart : index ≠ ring := by
          rintro rfl
          exact outside inside
        rw [SameAt, cursor?_advanceRing]
        simp [apart]

/-- How far a ring moves on depends on its cursor and on nothing else. -/
theorem agrees_advanceRing (agrees : Agrees area memory other) (index : Nat)
    : Agrees area (memory.advanceRing index) (other.advanceRing index) := by
  intro place inside
  have same := agrees place inside
  cases place with
  | byte region position => simpa [SameAt] using same
  | cursor ring =>
      simp only [SameAt] at same
      rw [SameAt, cursor?_advanceRing, cursor?_advanceRing]
      have moved := congrArg (Option.map fun cursor => if index = ring then cursor + 1 else cursor)
        same
      simpa [Option.map_map, Function.comp_def] using moved

end Memory

end TwoWire
