import TwoWire.Proofs.Completions
import TwoWire.Proofs.Reservations

/-! What captures leave in a ring, event by event.

The captures of a slave are kept in a log: those whose completions were handled, and one that has
landed since. The log tells where the cursor of the ring is and what its two slots hold.
-/

namespace TwoWire

open Scene
open Magnetometer

/-- The numbers that a capture reads: two bytes for each axis, the more significant one first. -/
def SampleRing.captured (data : List UInt8) : Axes Int :=
  .ofFn fun axis =>
    signedWord (data.getD (2 * axis.index.val) 0) (data.getD (2 * axis.index.val + 1) 0)

/-- The bytes that captures have read. -/
structure CaptureLog where
  /-- The captures whose completions were handled, oldest first. -/
  handled : List (List UInt8)
  /-- A capture that has landed since then. -/
  landed : Option (List UInt8)
deriving DecidableEq, Repr

namespace CaptureLog

def empty : CaptureLog := ⟨[], none⟩

/-- All captures that have landed. -/
def all (log : CaptureLog) : List (List UInt8) :=
  log.handled ++ log.landed.toList

def land (log : CaptureLog) (data : List UInt8) : CaptureLog :=
  { log with landed := some data }

/-- The completion of what has landed is handled. -/
def settle (log : CaptureLog) : CaptureLog :=
  ⟨log.all, none⟩

@[simp] theorem all_settle (log : CaptureLog)
    : log.settle.all = log.all := by
  simp [settle, all]

end CaptureLog

-----------------------------------------------------------------------------------------
-- Memory of a ring
-----------------------------------------------------------------------------------------

namespace Memory

variable {memory other : Memory} {index : Nat} {slot : Fin 2} {data : List UInt8}

/-- A ring that has bytes is there, so its cursor moves on. -/
theorem cursor_advanceRing_self (there : memory.bytes (.ring index) ≠ [])
    : ((memory.advanceRing index).ring index).cursor = (memory.ring index).cursor + 1 := by
  cases found : memory.rings[index]? with
  | none => simp [bytes, found] at there
  | some ring => simp [advanceRing, Memory.ring, found, SampleRing.advance]

/-- A slot holds the same numbers as long as the bytes of its ring are the same. -/
theorem sample_congr (same : memory.bytes (.ring index) = other.bytes (.ring index))
    : (memory.ring index).sample slot = (other.ring index).sample slot := by
  refine congrArg Axes.ofFn (funext fun axis => ?_)
  simp only [SampleRing.axisSample, byteAt_ring, same]

/-- After a capture its slot holds the numbers that were read. -/
theorem sample_capture
    (full : (memory.bytes (.ring index)).length = SampleRing.slots * SampleRing.slotStride)
    (whole : data.length = SampleRing.captureLength)
    : ((memory.write (Sensor.captureWindow index slot) data).ring index).sample slot
      = SampleRing.captured data := by
  have written (place : Nat) (inside : place < SampleRing.captureLength)
      : ((memory.write (Sensor.captureWindow index slot) data).ring index).byteAt
          (SampleRing.slotOffset slot + place)
        = data.getD place 0 := by
    have there : SampleRing.slotOffset slot + place < (memory.bytes (.ring index)).length := by
      simp only [full, SampleRing.slotOffset, SampleRing.slots, SampleRing.slotStride,
        SampleRing.captureLength] at inside ⊢
      omega
    have bytes := memory.bytes_write_self (Sensor.captureWindow index slot) data
    simp only [Sensor.captureWindow] at bytes ⊢
    rw [byteAt_ring, bytes, List.getD_eq_getElem?_getD, getElem?_overwrite,
      List.getElem?_eq_getElem there]
    simp [inside, whole, List.take_of_length_le]
  have axes (axis : Axis) : 2 * axis.index.val + 1 < SampleRing.captureLength := by
    cases axis <;> decide
  refine congrArg Axes.ofFn (funext fun axis => ?_)
  have inside := axes axis
  simp only [SampleRing.axisSample, Nat.add_assoc]
  rw [written _ (by omega), written _ (by omega)]

/-- The ring is where the log says: the cursor has moved on once for each capture that was handled,
the two captures that landed last stand in slots of their own, and a slot without one reads zero.
-/
structure Holds (memory : Memory) (ring : Nat) (log : CaptureLog) : Prop where
  full : (memory.bytes (.ring ring)).length = SampleRing.slots * SampleRing.slotStride
  cursor : (memory.ring ring).cursor.val = log.handled.length % 2
  slots
    : ∀ place data, ∀ slot : Fin 2,
        log.all[place]? = some data
        → log.all.length ≤ place + 2
        → slot.val = place % 2
        → (memory.ring ring).sample slot = SampleRing.captured data
  fresh
    : ∀ slot : Fin 2,
        log.all.length ≤ slot.val → (memory.ring ring).sample slot = Axes.replicate 0

variable {ring : Nat} {log : CaptureLog}

theorem Holds.congr (holds : memory.Holds ring log)
    (bytes : other.bytes (.ring ring) = memory.bytes (.ring ring))
    (cursor : (other.ring ring).cursor = (memory.ring ring).cursor)
    : other.Holds ring log where
  full := bytes ▸ holds.full
  cursor := cursor ▸ holds.cursor
  slots place data slot found late parity :=
    (sample_congr bytes).trans (holds.slots place data slot found late parity)
  fresh slot none := (sample_congr bytes).trans (holds.fresh slot none)

/-- A capture lands in the slot at the cursor, and the other slot keeps the capture before it. -/
theorem Holds.land (holds : memory.Holds ring log) (idle : log.landed = none)
    (whole : data.length = SampleRing.captureLength)
    : (memory.write (Sensor.captureWindow ring (memory.ring ring).cursor) data).Holds ring
        (log.land data) where
  full := (memory.length_bytes_write _ _ _).trans holds.full
  cursor := (congrArg Fin.val (memory.cursor_write _ _ _)).trans holds.cursor
  slots place read slot found late parity := by
    have before : log.all = log.handled := by simp [CaptureLog.all, idle]
    have after : (log.land data).all = log.handled ++ [data] := rfl
    rw [after] at found late
    have cursor := holds.cursor
    rw [List.length_append, List.length_singleton] at late
    rcases Nat.lt_trichotomy place log.handled.length with earlier | rfl | later
    · rw [List.getElem?_append_left earlier] at found
      rw [sample_write]
      · exact holds.slots place read slot (before ▸ found) (by rw [before]; omega) parity
      · rw [Window.captureWindow_reaches_iff]
        rintro rfl
        omega
    · obtain rfl : slot = (memory.ring ring).cursor := Fin.ext (parity.trans cursor.symm)
      obtain rfl : data = read := by simpa using found
      exact sample_capture holds.full whole
    · obtain ⟨inside, -⟩ := List.getElem?_eq_some_iff.mp found
      rw [List.length_append, List.length_singleton] at inside
      omega
  fresh slot none := by
    have before : log.all = log.handled := by simp [CaptureLog.all, idle]
    have after : (log.land data).all = log.handled ++ [data] := rfl
    rw [after, List.length_append, List.length_singleton] at none
    have cursor := holds.cursor
    rw [sample_write]
    · exact holds.fresh slot (before ▸ by omega)
    · rw [Window.captureWindow_reaches_iff]
      rintro rfl
      omega

/-- Handling a completion moves the cursor and no byte. -/
theorem Holds.settle (holds : memory.Holds ring log) (landed : log.landed.isSome = true)
    : (memory.advanceRing ring).Holds ring log.settle where
  full := (congrArg List.length (memory.bytes_advanceRing ring _)).trans holds.full
  cursor := by
    have there : memory.bytes (.ring ring) ≠ [] := by
      intro none
      have full := holds.full
      simp [none, SampleRing.slots, SampleRing.slotStride] at full
    obtain ⟨data, landed⟩ := Option.isSome_iff_exists.mp landed
    have cursor := holds.cursor
    have length : log.settle.handled.length = log.handled.length + 1 := by
      simp [CaptureLog.settle, CaptureLog.all, landed]
    rw [cursor_advanceRing_self there, length, Fin.val_add]
    omega
  slots place data slot found late parity := by
    rw [CaptureLog.all_settle] at found late
    exact (sample_congr (memory.bytes_advanceRing ring _)).trans
      (holds.slots place data slot found late parity)
  fresh slot none := by
    rw [CaptureLog.all_settle] at none
    exact (sample_congr (memory.bytes_advanceRing ring _)).trans (holds.fresh slot none)

/-- The slot beside the cursor holds the capture that was handled last, whatever has landed
since.
-/
theorem Holds.sample_last (holds : memory.Holds ring log) {earlier : List (List UInt8)}
    {last : List UInt8} (handled : log.handled = earlier ++ [last])
    : (memory.ring ring).sample ((memory.ring ring).cursor + 1) = SampleRing.captured last := by
  have cursor := holds.cursor
  rw [handled, List.length_append, List.length_singleton] at cursor
  refine holds.slots earlier.length last _ (by simp [CaptureLog.all, handled]) ?_ ?_
  · cases log.landed <;> simp [CaptureLog.all, handled]
  · rw [Fin.val_add]
    omega

/-- As long as nothing has landed since, the slot at the cursor holds the capture before that. -/
theorem Holds.sample_before (holds : memory.Holds ring log) (idle : log.landed = none)
    {earlier : List (List UInt8)} {before last : List UInt8}
    (handled : log.handled = earlier ++ [before, last])
    : (memory.ring ring).sample (memory.ring ring).cursor = SampleRing.captured before := by
  have cursor := holds.cursor
  rw [handled, List.length_append] at cursor
  refine holds.slots earlier.length before _ ?_ ?_ ?_
  · simp [CaptureLog.all, handled]
  · simp [CaptureLog.all, handled, idle]
  · simpa using cursor

end Memory

-----------------------------------------------------------------------------------------
-- The slave that feeds a ring
-----------------------------------------------------------------------------------------

/-- The completions of this slave move the ring on, and those of no other slave do. -/
def SlaveTable.FedBy (table : SlaveTable) (ring : Nat) (handle : Handle) : Prop :=
  ∀ ⦃place : Handle⦄ ⦃slave : Slave⦄,
    table.get? place = some slave → (slave.reaction = .advanceRing ring ↔ place = handle)

theorem SlaveTable.FedBy.feedsOnce {table : SlaveTable} {ring : Nat} {handle : Handle}
    (fed : table.FedBy ring handle)
    : table.FeedsOnce ring :=
  fun found there feeds also => ((fed found).mp feeds).trans ((fed there).mp also).symm

/-- A table that knows less is fed by the same slave. -/
theorem SlaveTable.FedBy.of_known {table more : SlaveTable} {ring : Nat} {handle : Handle}
    (fed : more.FedBy ring handle)
    (known : ∀ {place slave}, table.get? place = some slave → more.get? place = some slave)
    : table.FedBy ring handle :=
  fun _ _ found => fed (known found)

/-- A stream of this slave on the bus is a reception into the ring. -/
def Bus.Captures (bus : Bus) (ring : Nat) (handle : Handle) : Prop :=
  ∀ kind register window,
    bus.owner = some handle
    → bus.served.getLast? = some (.stream kind handle register window)
    → kind = .read ∧ window.region = .ring ring

namespace Scene

/-- The slave is given streams for captures into the ring only, and each of these is finished with
all its bytes.
-/
def Event.Tends (ring : Nat) (handle : Handle) : Event → Prop
  | serve origin _ operation => handle ∈ operation.streams → origin = .capture ring
  | land _ .rx window data =>
    window.region = .ring ring → data.length = SampleRing.captureLength
  | _ => True

end Scene

/-- A bus goes on with captures of the slave, or it begins one. -/
theorem Bus.Turn.captures {slaves : SlaveTable} {id : BusId} {bus next : Bus}
    {left after : Option Nat} {event : Scene.Event} {ring : Nat} {handle : Handle}
    {before memory : Memory} (turn : bus.Turn slaves id left event next after)
    (captures : bus.Captures ring handle) (remembers : event.Remembers before memory)
    (tends : event.Tends ring handle)
    : next.Captures ring handle := by
  intro kind register window held last
  cases turn with
  | prepare | pause | land | touch | forget => exact captures kind register window held last
  | serveByte | conclude | close => simp [owner] at held
  | claim => simp at last
  | serveStream _ _ _ _ long =>
      rw [List.getLast?_concat, Option.some.injEq, Transaction.stream.injEq] at last
      obtain ⟨rfl, rfl, -, rfl⟩ := last
      obtain rfl := tends (by simp [Operation.streams, long])
      obtain ⟨request, same, read, capture⟩ := remembers.1 ring rfl
      obtain rfl := Operation.transfer.inj same
      exact ⟨read, by rw [capture]; rfl⟩

namespace Scene

variable {scene next : Scene} {event : Event} {events : List Event} {ring : Nat}
  {handle : Handle} {log : CaptureLog} {id : BusId}

/-- Nothing but a reception changes the bytes of a ring that is left to its sensor. -/
theorem Move.bytes_eq (move : scene.Move event next) (spares : event.Spares ring)
    (dry
      : ∀ id window data, event = .land id .rx window data → window.region ≠ .ring ring)
    : next.master.memory.bytes (.ring ring) = scene.master.memory.bytes (.ring ring) := by
  cases move with
  | enter => rfl
  | advance => exact Memory.bytes_advanceRing _ _ _
  | @turn id _ _ _ memory turn remembers =>
      rw [memory_change]
      cases turn with
      | prepare | claim | pause | conclude | touch | forget =>
          rw [show memory = scene.master.memory from remembers]
      | serveStream _ _ _ _ long =>
          rcases remembers.2 with same | ⟨request, value, equal, short, -⟩
          · rw [same]
          · obtain rfl := Operation.transfer.inj equal
            exact absurd long (Nat.not_le_of_lt short)
      | serveByte =>
          rcases remembers.2 with same | ⟨request, value, rfl, short, same⟩
          · rw [same]
          · rw [same]
            refine Memory.bytes_write_of_ne (fun target => ?_) _
            obtain ⟨capture, -⟩ := spares.capture remembers target.symm
            rw [capture] at short
            simp [Sensor.captureWindow, SampleRing.captureLength] at short
      | @land stream window data =>
          cases stream with
          | rx =>
              rw [show memory = scene.master.memory.write window data from remembers]
              exact Memory.bytes_write_of_ne (Ne.symm (dry id window data rfl)) data
          | tx => rw [show memory = scene.master.memory from remembers]
      | @close _ slave =>
          simp only [Event.Remembers] at remembers
          rw [remembers]
          split
          · exact Memory.bytes_advanceRing _ _ _
          · rfl

/-- A transaction is closed for the registered slave that owns the bus. -/
theorem Move.closed {slave : Slave} (move : scene.Move (.close id slave handle) next)
    : scene.master.slaves.get? handle = some slave
      ∧ (scene.master.bus id).owner = some handle := by
  cases move with
  | turn turn =>
      cases turn with
      | close found held => exact ⟨found, held⟩

/-- What an event adds to the log of the captures that a slave makes into a ring. -/
def Event.note (ring : Nat) (handle : Handle) (log : CaptureLog) : Event → CaptureLog
  | land _ .rx window data => if window.region = .ring ring then log.land data else log
  | close _ _ told => if told = handle then log.settle else log
  | _ => log

/-- The log of a slave tells what its captures have left in the ring and in the buses. -/
structure Gathers (scene : Scene) (ring : Nat) (handle : Handle) (log : CaptureLog) : Prop where
  reserves : scene.Reserves ring
  captures : ∀ id, (scene.master.bus id).Captures ring handle
  waits : log.landed.isSome = true ↔ ∃ id, scene.Waits id .rx handle
  holds : scene.master.memory.Holds ring log

/-- A reception into the ring is one of the slave, and nothing has landed since the one before. -/
theorem Gathers.running (gathers : scene.Gathers ring handle log) (coherent : scene.Coherent)
    (fed : scene.master.slaves.FedBy ring handle) {peripheral : Peripheral} {window : Window}
    (here : scene.master.peripheral? id = some peripheral)
    (armed : peripheral.armed = some (.rx, window)) (target : window.region = .ring ring)
    : (scene.master.bus id).owner = some handle
      ∧ window = Sensor.captureWindow ring (scene.master.memory.ring ring).cursor
      ∧ log.landed = none := by
  obtain ⟨-, kind, owner, register, -, -, held, -, -, last, streams⟩ :=
    (coherent.buses id).running_of_armed here armed
  obtain ⟨capture, slave, found, feeds⟩ :=
    gathers.reserves id owner window ⟨held, kind, register, last⟩ target
  obtain rfl := (fed found).mp feeds
  refine ⟨held, capture, Option.not_isSome_iff_eq_none.mp (fun landed => ?_)⟩
  obtain ⟨other, also, after, there, flag⟩ := gathers.waits.mp landed
  obtain rfl := coherent.owner_unique held also
  obtain rfl := Option.some.inj (here.symm.trans there)
  obtain ⟨-, -, -, -, -, -, -, -, -, -, -, finished⟩ :=
    (coherent.buses id).landed_of_completed here flag
  simp [streams, StreamState.running, StreamState.finished] at finished

/-- When a completion of the slave is handled, a capture has landed. -/
theorem Gathers.landed (gathers : scene.Gathers ring handle log) (coherent : scene.Coherent)
    {peripheral : Peripheral} {stream : Stream} (held : (scene.master.bus id).owner = some handle)
    (here : scene.master.peripheral? id = some peripheral)
    (flag : peripheral.completed stream = true)
    : log.landed.isSome = true := by
  obtain ⟨-, kind, owner, register, window, -, rfl, own, -, -, last, -⟩ :=
    (coherent.buses id).landed_of_completed here flag
  obtain rfl := Option.some.inj (own.symm.trans held)
  obtain ⟨rfl, -⟩ := gathers.captures id kind register window held last
  exact gathers.waits.mpr ⟨id, held, peripheral, here, flag⟩

/-- Bytes that land in the ring are a capture of the slave. -/
theorem Gathers.lands {window : Window} {data : List UInt8}
    (gathers : scene.Gathers ring handle log) (coherent : scene.Coherent)
    (move : scene.Move (.land id .rx window data) next)
    (fed : scene.master.slaves.FedBy ring handle) (target : window.region = .ring ring)
    (whole : data.length = SampleRing.captureLength)
    : next.Waits id .rx handle ∧ next.master.memory.Holds ring (log.land data) := by
  cases move with
  | turn turn remembers =>
      cases turn with
      | @land _ _ _ peripheral here armed =>
          obtain ⟨held, rfl, idle⟩ := gathers.running coherent fed here armed target
          refine ⟨⟨?_, { peripheral with armed := none }.setCompleted .rx true, ?_, rfl⟩, ?_⟩
          · rw [bus_change_self]
            exact held
          · rw [Master.peripheral?, bus_change_self]
          · rw [memory_change, remembers]
            exact gathers.holds.land idle whole

/-- A completion of the slave that is handled was the only one that waited. -/
theorem Gathers.settles {slave : Slave} (gathers : scene.Gathers ring handle log)
    (coherent : scene.Coherent) (move : scene.Move (.close id slave handle) next)
    (fed : scene.master.slaves.FedBy ring handle)
    : (∀ other, ¬ next.Waits other .rx handle)
      ∧ next.master.memory.Holds ring log.settle := by
  cases move with
  | turn turn remembers =>
      cases turn with
      | close found held here flag =>
          refine ⟨?_, ?_⟩
          · rintro other ⟨owned, -⟩
            by_cases same : other = id
            · subst same
              simp [Bus.owner] at owned
            · rw [bus_change_of_ne same] at owned
              exact same (coherent.owner_unique owned held)
          · have feeds : slave.reaction = .advanceRing ring := (fed found).mpr rfl
            simp only [Event.Remembers, feeds] at remembers
            rw [memory_change, remembers]
            exact gathers.holds.settle (gathers.landed coherent held here flag)

/-- Whatever else happens is neither seen in the ring nor in the completions of the slave. -/
theorem Gathers.stays (gathers : scene.Gathers ring handle log) (coherent : scene.Coherent)
    (move : scene.Move event next) (spares : event.Spares ring)
    (fed : scene.master.slaves.FedBy ring handle)
    (dry : ∀ id window data, event = .land id .rx window data → window.region ≠ .ring ring)
    (untold : ∀ id slave told, event = .close id slave told → told ≠ handle)
    : ((∃ id, scene.Waits id .rx handle) ↔ ∃ id, next.Waits id .rx handle)
      ∧ next.master.memory.Holds ring log := by
  refine ⟨⟨?_, ?_⟩, gathers.holds.congr (move.bytes_eq spares dry) (move.cursor_eq spares ?_)⟩
  · rintro ⟨id, waits⟩
    refine ⟨id, waits.move coherent move ?_⟩
    cases event with
    | close place slave told =>
        have apart : place ≠ id := by
          rintro rfl
          exact untold _ _ _ rfl (Option.some.inj (move.closed.2.symm.trans waits.1))
        simp [Event.toldOn, Event.told?, apart]
    | prepare | enter | serve | claim | pause | conclude | land | advance | touch | forget =>
        rfl
  · rintro ⟨id, waits⟩
    rcases move.waits_cases coherent waits with
      before | ⟨window, data, rfl, held, peripheral, here, armed⟩
    · exact ⟨id, before⟩
    · obtain ⟨-, kind, owner, register, -, -, own, -, -, last, -⟩ :=
        (coherent.buses id).running_of_armed here armed
      obtain rfl := Option.some.inj (own.symm.trans held)
      exact absurd (gathers.captures id kind register window held last).2 (dry id window data rfl)
  · rintro id slave told rfl feeds
    exact untold _ _ _ rfl ((fed move.closed.1).mp feeds)

theorem Gathers.captures_move (gathers : scene.Gathers ring handle log)
    (move : scene.Move event next) (tends : event.Tends ring handle)
    : ∀ id, (next.master.bus id).Captures ring handle := by
  intro id
  cases move with
  | enter | advance => exact gathers.captures id
  | @turn place _ _ _ _ turn remembers =>
      by_cases same : id = place
      · subst same
        rw [bus_change_self]
        exact turn.captures (gathers.captures id) remembers tends
      · rw [bus_change_of_ne same]
        exact gathers.captures id

/-- Each event leaves what the log then tells, by cases on whether it is a capture that lands, a
completion of the slave, or something else.
-/
theorem Gathers.move (gathers : scene.Gathers ring handle log) (coherent : scene.Coherent)
    (move : scene.Move event next) (spares : event.Spares ring) (tends : event.Tends ring handle)
    (fed : scene.master.slaves.FedBy ring handle)
    : next.Gathers ring handle (event.note ring handle log) := by
  have reserves := gathers.reserves.move coherent move spares fed.feedsOnce
  have captures := gathers.captures_move move tends
  have other
      (dry
        : ∀ id window data, event = .land id .rx window data → window.region ≠ .ring ring)
      (untold : ∀ id slave told, event = .close id slave told → told ≠ handle)
      : next.Gathers ring handle log :=
    have stays := gathers.stays coherent move spares fed dry untold
    ⟨reserves, captures, gathers.waits.trans stays.1, stays.2⟩
  cases event with
  | close id slave told =>
      by_cases own : told = handle
      · subst own
        obtain ⟨none, holds⟩ := gathers.settles coherent move fed
        simp only [Event.note, if_true]
        exact ⟨reserves, captures, by simp [CaptureLog.settle, none], holds⟩
      · simp only [Event.note, own, if_false]
        exact other (by simp) (by simp [own])
  | land id stream window data =>
      by_cases capture : stream = .rx ∧ window.region = .ring ring
      · obtain ⟨rfl, target⟩ := capture
        obtain ⟨waits, holds⟩ := gathers.lands coherent move fed target (tends target)
        simp only [Event.note, target, if_true]
        exact ⟨reserves, captures, by simpa [CaptureLog.land] using ⟨id, waits⟩, holds⟩
      · have same : (Event.land id stream window data).note ring handle log = log := by
          cases stream with
          | rx => exact if_neg (fun target => capture ⟨rfl, target⟩)
          | tx => rfl
        rw [same]
        refine other ?_ (by simp)
        intro place current bytes equal target
        obtain ⟨-, rfl, rfl, -⟩ := (Event.land.injEq ..).mp equal
        exact capture ⟨rfl, target⟩
  | prepare | enter | serve | claim | pause | conclude | advance | touch | forget =>
      exact other (by simp) (by simp)

/-- Events that follow each other leave what the log tells after them, by induction over them. -/
theorem Gathers.moves (gathers : scene.Gathers ring handle log) (coherent : scene.Coherent)
    (moves : scene.Moves events next) (spares : ∀ event ∈ events, event.Spares ring)
    (tends : ∀ event ∈ events, event.Tends ring handle)
    (fed : next.master.slaves.FedBy ring handle)
    : next.Gathers ring handle (events.foldl (Event.note ring handle) log) := by
  induction moves generalizing log with
  | nil => exact gathers
  | cons move rest ih =>
      have now := fed.of_known (fun found => (Moves.cons move rest).known found)
      exact ih
        (gathers.move coherent move (spares _ List.mem_cons_self) (tends _ List.mem_cons_self) now)
        (coherent.move move) (fun event member => spares event (List.mem_cons_of_mem _ member))
        (fun event member => tends event (List.mem_cons_of_mem _ member)) fed

/-- Events with which no reception lands are noted as far as they tell the slave. -/
theorem foldl_note_of_dry
    (dry : ∀ event ∈ events, ∀ id window data, event ≠ .land id .rx window data)
    : events.foldl (Event.note ring handle) log
      = (events.filterMap Event.told?).foldl
          (fun log told => if told.2 = handle then log.settle else log) log := by
  induction events generalizing log with
  | nil => rfl
  | cons event rest ih =>
      have first := dry event List.mem_cons_self
      rw [List.foldl_cons, ih (fun event member => dry event (List.mem_cons_of_mem _ member))]
      cases event with
      | land id stream window data =>
          cases stream with
          | rx => exact absurd rfl (first id window data)
          | tx => rfl
      | prepare | enter | serve | claim | pause | conclude | close | advance | touch | forget =>
          rfl

end Scene

end TwoWire
