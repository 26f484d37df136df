import TwoWire.Poll

/-! Pauses, which are made in slices that fit a counter, and a meter of what was asked for. -/

namespace TwoWire

/-- How long the slices of pauses take, counted in polls of the one who waits for them. -/
structure Schedule where
  /-- How many polls find a slice unfinished, given how many slices came before it. -/
  lag : Nat → Nat

namespace Schedule

/-- Either each slice suspends its caller once, or each ends at once. -/
def uniform (yields : Bool) : Schedule := ⟨fun _ => yields.toNat⟩

instance : Coe Bool Schedule := ⟨uniform⟩

end Schedule

/-- A source of pauses that counts them. -/
structure Delay where
  schedule : Schedule
  calls : Nat
  elapsed : Nat
  /-- How many more polls are to find the last slice unfinished. -/
  left : Nat

namespace Delay

def new (schedule : Schedule) : Delay := ⟨schedule, 0, 0, 0⟩

/-- Begin a slice. -/
def charge (delay : Delay) (nanoseconds : Nat) : Delay :=
  { delay with
    calls := delay.calls + 1
    elapsed := delay.elapsed + nanoseconds
    left := delay.schedule.lag delay.calls }

/-- Cut `amount` units of `unit` nanoseconds into slices of at most `largest` units. All but the
last are full, and the last is there even if it is empty.
-/
def slices (unit largest amount : Nat) : List Nat :=
  let full := (amount - 1) / largest
  List.replicate full (largest * unit) ++ [(amount - full * largest) * unit]

/-- The slices of a pause in milliseconds; longer ones would not fit in 32 bits. -/
def milliseconds (amount : Nat) : List Nat :=
  slices 1000000 4294 amount

/-- The slices of a pause in microseconds; longer ones would not fit in 32 bits. -/
def microseconds (amount : Nat) : List Nat :=
  slices 1000 4294967 amount

/-- Go through slices until one is unfinished, leaving those that come after it. -/
def pause (slices : List Nat) (delay : Delay) : Poll (List Nat) Unit × Delay :=
  if 0 < delay.left then
    (.pending slices, { delay with left := delay.left - 1 })
  else
    match slices with
    | [] => (.ready (), delay)
    | slice :: rest => pause rest (delay.charge slice)

end Delay

end TwoWire
