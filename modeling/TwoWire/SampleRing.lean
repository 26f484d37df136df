import TwoWire.Axes

/-! The landing area of captures: two slots that are filled in turn.

A completed capture moves the cursor to the other slot, and nothing else moves it.
-/

namespace TwoWire

/-- A landing area and the slot that the next capture fills. -/
structure SampleRing where
  bytes : List UInt8
  /-- The slot that the next or the current capture writes to. -/
  cursor : Fin 2
deriving DecidableEq, Repr

namespace SampleRing

/-- The number of slots, which is the number of captures that are averaged. -/
def slots : Nat := 2

/-- The distance between the starts of two slots. -/
def slotStride : Nat := 8

/-- The bytes of a capture: three axes of two bytes, the rest of a slot being padding. -/
def captureLength : Nat := 6

def new : SampleRing where
  bytes := List.replicate (slots * slotStride) 0
  cursor := 0

/-- Move on to the other slot, as every completed capture does. -/
def advance (ring : SampleRing) : SampleRing :=
  { ring with cursor := ring.cursor + 1 }

/-- Where a slot starts in the memory of the ring. -/
def slotOffset (slot : Fin 2) : Nat :=
  slot.val * slotStride

/-- The number written in two bytes, more significant first, in two's complement. -/
def signedWord (high low : UInt8) : Int :=
  Int.bmod (high.toNat * 256 + low.toNat : Nat) 65536

/-- The byte at a position; memory that is not there reads as zero. -/
def byteAt (ring : SampleRing) (position : Nat) : UInt8 :=
  ring.bytes.getD position 0

def axisSample (ring : SampleRing) (slot : Fin 2) (axis : Axis) : Int :=
  let start := slotOffset slot + 2 * axis.index.val
  signedWord (ring.byteAt start) (ring.byteAt (start + 1))

def sample (ring : SampleRing) (slot : Fin 2) : Axes Int :=
  .ofFn (ring.axisSample slot)

end SampleRing

end TwoWire
