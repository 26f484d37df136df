import TwoWire.Magnetometer.Sensor

/-! What decoding reads of a ring: the slots that it uses, and none of the bytes beside them.

A transfer reaches the bytes of its window and never the cursor, so a slot can only be disturbed
by a window that overlaps it.
-/

namespace TwoWire

open Magnetometer

/-- The window and the bytes of a slot have a place in common. -/
def Window.Reaches (window : Window) (ring : Nat) (slot : Fin 2) : Prop :=
  window.region = .ring ring
  ∧ window.offset < SampleRing.slotOffset slot + SampleRing.slotStride
  ∧ SampleRing.slotOffset slot < window.offset + window.length

/-- All bytes of a slot, with its padding. -/
def Window.slot (ring : Nat) (slot : Fin 2) : Window :=
  ⟨.ring ring, SampleRing.slotOffset slot, SampleRing.slotStride⟩

namespace Window

variable {ring : Nat} {slot other : Fin 2}

/-- A capture reaches its own slot only. -/
theorem captureWindow_reaches_iff
    : (Sensor.captureWindow ring slot).Reaches ring other ↔ other = slot := by
  simp only [Reaches, Sensor.captureWindow, SampleRing.slotOffset, SampleRing.slotStride,
    SampleRing.captureLength, true_and]
  omega

/-- Two slots of a ring have no place in common. -/
theorem slot_reaches_iff
    : (Window.slot ring slot).Reaches ring other ↔ other = slot := by
  simp only [Reaches, Window.slot, SampleRing.slotOffset, SampleRing.slotStride, true_and]
  omega

end Window

namespace Memory

variable {memory : Memory} {window : Window} {data : List UInt8} {index ring : Nat}

/-- Writing never moves a cursor. -/
@[simp] theorem cursor_write (memory : Memory) (window : Window) (data : List UInt8) (index : Nat)
    : ((memory.write window data).ring index).cursor = (memory.ring index).cursor := by
  obtain ⟨region, offset, length⟩ := window
  cases region with
  | buffer => rfl
  | ring place =>
      by_cases same : place = index
      · subst same
        cases found : memory.rings[place]? <;> simp [write, modify, Memory.ring, found]
      · simp [write, modify, Memory.ring, same]

/-- A completion moves no cursor but the one of its own ring. -/
theorem cursor_advanceRing_of_ne (other : ring ≠ index)
    : ((memory.advanceRing index).ring ring).cursor = (memory.ring ring).cursor := by
  simp [advanceRing, Memory.ring, other.symm]

/-- A ring that moves on keeps its bytes. -/
@[simp] theorem bytes_advanceRing (memory : Memory) (index : Nat) (region : Region)
    : (memory.advanceRing index).bytes region = memory.bytes region := by
  cases region with
  | buffer => rfl
  | ring place =>
      by_cases same : index = place
      · subst same
        cases found : memory.rings[index]? <;>
          simp [advanceRing, bytes, found, SampleRing.advance]
      · simp [advanceRing, bytes, same]

/-- The bytes of a ring are those of its region, and a ring that is not there reads as zero. -/
theorem byteAt_ring (memory : Memory) (index position : Nat)
    : (memory.ring index).byteAt position = (memory.bytes (.ring index)).getD position 0 := by
  cases found : memory.rings[index]? with
  | none =>
      simp only [Memory.ring, bytes, SampleRing.byteAt, List.getD_eq_getElem?_getD, found]
      by_cases inside : position < SampleRing.slots * SampleRing.slotStride <;>
        simp [SampleRing.new, inside]
  | some ring => simp [Memory.ring, bytes, SampleRing.byteAt, found]

/-- A byte outside the window that is written keeps its value. -/
theorem byteAt_write {position : Nat}
    (outside
      : window.region = .ring index
        → position < window.offset ∨ window.offset + window.length ≤ position)
    : ((memory.write window data).ring index).byteAt position
      = (memory.ring index).byteAt position := by
  simp only [byteAt_ring]
  by_cases same : window.region = .ring index
  · have written := memory.bytes_write_self window data
    rw [same] at written
    rw [written]
    simp only [List.getD_eq_getElem?_getD, getElem?_overwrite]
    congr 1
    cases (memory.bytes (.ring index))[position]? with
    | none => rfl
    | some byte =>
        rw [Option.map_some, Option.some.injEq]
        split
        · rcases outside same with before | past
          · omega
          · have short : (data.take window.length).length ≤ position - window.offset := by
              rw [List.length_take]
              omega
            rw [List.getElem?_eq_none short, Option.getD_none]
        · rfl
  · rw [bytes_write_of_ne (fun other => same other.symm)]

/-- A slot that a window does not reach keeps its numbers when the window is written. -/
theorem sample_write {slot : Fin 2} (apart : ¬ window.Reaches index slot)
    : ((memory.write window data).ring index).sample slot = (memory.ring index).sample slot := by
  refine congrArg Axes.ofFn (funext fun axis => ?_)
  have inside : 2 * axis.index.val + 1 < SampleRing.slotStride := by
    cases axis <;> decide
  have kept (position : Nat) (starts : SampleRing.slotOffset slot ≤ position)
      (ends : position < SampleRing.slotOffset slot + SampleRing.slotStride)
      : ((memory.write window data).ring index).byteAt position
        = (memory.ring index).byteAt position := by
    refine byteAt_write (fun same => ?_)
    simp only [Window.Reaches, same, true_and, not_and, Nat.not_lt] at apart
    omega
  simp only [SampleRing.axisSample]
  rw [kept _ (by omega) (by omega), kept _ (by omega) (by omega)]

end Memory

namespace Magnetometer.Sensor

/-- Decoding is independent of what is written to slots that it does not use. -/
theorem decode_write {sensor : Sensor} {master : Master} {window : Window}
    (apart
      : ∀ slot ∈ usedSlots (master.memory.ring sensor.ring).cursor
            (master.bus sensor.config.bus).isBusy,
          ¬ window.Reaches sensor.ring slot)
    (data : List UInt8) (temperature : Float32) (now : Nat)
    : sensor.decode { master with memory := master.memory.write window data } temperature now
      = sensor.decode master temperature now := by
  have same
      : sums ((master.memory.write window data).ring sensor.ring)
          (usedSlots (master.memory.ring sensor.ring).cursor
            (master.bus sensor.config.bus).isBusy)
        = sums (master.memory.ring sensor.ring)
            (usedSlots (master.memory.ring sensor.ring).cursor
              (master.bus sensor.config.bus).isBusy) := by
    refine congrArg Axes.ofFn (funext fun axis => congrArg (List.foldl _ 0) ?_)
    exact List.map_congr_left (fun slot used => by rw [Memory.sample_write (apart slot used)])
  have bus
      : Master.bus { master with memory := master.memory.write window data } sensor.config.bus
        = master.bus sensor.config.bus := rfl
  unfold decode
  simp only [Memory.cursor_write, bus, same]

/-- While its bus is busy decoding does not use the slot at the cursor. -/
theorem ne_cursor_of_used {cursor slot : Fin 2} (used : slot ∈ usedSlots cursor true)
    : slot ≠ cursor := by
  simpa using (List.mem_filter.mp used).2

end Magnetometer.Sensor

end TwoWire
