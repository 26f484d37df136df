import TwoWire.Proofs.RingSlots
import TwoWire.Proofs.Tasks

/-! Which slot of a ring is reserved for a transfer.

While a capture goes on the cursor of its ring stays where it is: the cursor is moved by
completions of the one slave that feeds the ring, and that slave owns the bus of the capture.
-/

namespace TwoWire

open Scene
open Magnetometer

/-- No two handles stand for slaves whose completions move the ring on. -/
def SlaveTable.FeedsOnce (table : SlaveTable) (ring : Nat) : Prop :=
  ∀ {first second : Handle} {one other : Slave},
    table.get? first = some one
    → table.get? second = some other
    → one.reaction = .advanceRing ring
    → other.reaction = .advanceRing ring
    → first = second

/-- The bus is owned by a stream of this slave that moves the bytes of this window. -/
structure Bus.Streams (bus : Bus) (handle : Handle) (window : Window) : Prop where
  held : bus.owner = some handle
  last
    : ∃ kind register,
        bus.served.getLast? = some (.stream kind handle register window)

/-- A bus that an event leaves to a stream was given to it by this event, or it was left to the
same stream before and no transaction was closed there.
-/
theorem Bus.Turn.streams {slaves : SlaveTable} {id : BusId} {bus next : Bus}
    {left after : Option Nat} {event : Scene.Event} {handle : Handle} {window : Window}
    (turn : bus.Turn slaves id left event next after) (streams : next.Streams handle window)
    : (bus.Streams handle window ∧ event.told? = none)
      ∨ ∃ origin slave request,
          event = .serve origin slave (.transfer request)
          ∧ slaves.get? handle = some slave
          ∧ request.window = window
          ∧ 2 ≤ request.window.length := by
  obtain ⟨held, kind, register, last⟩ := streams
  cases turn with
  | prepare | pause | land | touch | forget => exact .inl ⟨⟨held, kind, register, last⟩, rfl⟩
  | serveByte | conclude | close => simp [owner] at held
  | claim => simp at last
  | @serveStream _ _ request _ _ found _ _ _ long =>
      rw [List.getLast?_concat, Option.some.injEq, Transaction.stream.injEq] at last
      obtain ⟨-, rfl, -, same⟩ := last
      exact .inr ⟨_, _, request, rfl, found, same, long⟩

namespace Scene

/-- A stream that reaches the ring is a capture into the slot at the cursor, by a slave whose
completions move the ring on.
-/
def Reserves (scene : Scene) (ring : Nat) : Prop :=
  ∀ id handle window,
    (scene.master.bus id).Streams handle window
    → window.region = .ring ring
    → window = Sensor.captureWindow ring (scene.master.memory.ring ring).cursor
      ∧ ∃ slave,
          scene.master.slaves.get? handle = some slave ∧ slave.reaction = .advanceRing ring

/-- The ring is left to the sensor that feeds it: only captures are served there, and the cursor
is moved by nothing but completions.
-/
def Event.Spares (ring : Nat) : Event → Prop
  | serve (.capture other) slave _ => other = ring → slave.reaction = .advanceRing ring
  | serve _ _ (.transfer request) => request.window.region ≠ .ring ring
  | advance other => other ≠ ring
  | _ => True

variable {scene next : Scene} {event : Event} {events : List Event} {ring : Nat}

/-- The cursor stays where it is until a completion is told to a slave that feeds the ring. -/
theorem Move.cursor_eq (move : scene.Move event next) (spares : event.Spares ring)
    (still
      : ∀ id slave handle, event = .close id slave handle → slave.reaction ≠ .advanceRing ring)
    : (next.master.memory.ring ring).cursor = (scene.master.memory.ring ring).cursor := by
  cases move with
  | enter => rfl
  | advance other => exact Memory.cursor_advanceRing_of_ne (Ne.symm spares)
  | @turn id _ _ _ memory turn remembers =>
      rw [memory_change]
      cases turn with
      | prepare | claim | pause | conclude | touch | forget =>
          rw [show memory = scene.master.memory from remembers]
      | serveByte | serveStream =>
          rcases remembers.2 with same | ⟨request, value, -, -, same⟩
          · rw [same]
          · rw [same, Memory.cursor_write]
      | @land stream =>
          cases stream with
          | rx =>
              rw [show memory = scene.master.memory.write _ _ from remembers,
                Memory.cursor_write]
          | tx => rw [show memory = scene.master.memory from remembers]
      | @close _ slave handle =>
          have kept := still id slave handle rfl
          simp only [Event.Remembers] at remembers
          rw [remembers]
          split
          · rename_i other reaction
            refine Memory.cursor_advanceRing_of_ne (fun same => kept ?_)
            rw [reaction, same]
          · rfl

/-- The window of a stream that an event begins is a capture into the slot at the cursor, if the
window reaches the ring at all.
-/
theorem Event.Spares.capture {origin : Origin} {slave : Slave} {request : Request}
    {before after : Memory}
    (spares : Event.Spares ring (.serve origin slave (.transfer request)))
    (remembers
      : Event.Remembers before after (.serve origin slave (.transfer request)))
    (target : request.window.region = .ring ring)
    : request.window = Sensor.captureWindow ring (before.ring ring).cursor
      ∧ slave.reaction = .advanceRing ring := by
  cases origin with
  | client | bringUp => exact absurd target spares
  | capture other =>
      obtain ⟨captured, ⟨⟩, -, window⟩ := remembers.1 other rfl
      have same : other = ring := by
        rw [window] at target
        exact Region.ring.inj target
      subst same
      exact ⟨window, spares rfl⟩

/-- Reserved slots stay reserved, by cases on where the event happens. A completion that moves the
cursor closes the only bus on which the ring can be reached, since it is told to the only slave
that feeds the ring.
-/
theorem Reserves.move (reserves : scene.Reserves ring) (coherent : scene.Coherent)
    (move : scene.Move event next) (spares : event.Spares ring)
    (once : scene.master.slaves.FeedsOnce ring)
    : next.Reserves ring := by
  intro id handle window streams target
  have cursor := move.cursor_eq spares
  have known {slave : Slave} (found : scene.master.slaves.get? handle = some slave) :=
    move.known found
  -- What was reserved before stays so while the cursor does.
  have kept (before : (scene.master.bus id).Streams handle window)
      (still
        : ∀ place slave told, event = .close place slave told
          → slave.reaction ≠ .advanceRing ring)
      : window = Sensor.captureWindow ring (next.master.memory.ring ring).cursor
        ∧ ∃ slave,
            next.master.slaves.get? handle = some slave
            ∧ slave.reaction = .advanceRing ring := by
    obtain ⟨capture, slave, found, feeds⟩ := reserves id handle window before target
    rw [cursor still]
    exact ⟨capture, slave, known found, feeds⟩
  cases move with
  | enter => exact kept ⟨streams.held, streams.last⟩ (by simp)
  | advance => exact kept streams (by simp)
  | @turn place event bus left memory turn remembers =>
      by_cases here : id = place
      · subst here
        rw [bus_change_self] at streams
        rcases turn.streams streams with ⟨before, untold⟩
          | ⟨origin, slave, request, rfl, found, rfl, long⟩
        · refine kept before ?_
          intro _ _ _ equal
          subst equal
          simp [Event.told?] at untold
        · obtain ⟨capture, feeds⟩ := spares.capture remembers target
          rw [cursor (by simp)]
          exact ⟨capture, slave, found, feeds⟩
      · rw [bus_change_of_ne here] at streams
        refine kept streams ?_
        intro _ closer told equal feeds
        subst equal
        cases turn with
        | close closed held =>
            obtain ⟨-, slave, found, fed⟩ := reserves id handle window streams target
            obtain rfl := once found closed fed feeds
            exact here (coherent.owner_unique streams.held held)

/-- Reserved slots stay reserved over events that follow each other, by induction over them. The
last table decides who feeds the ring, since the tables before it know less.
-/
theorem Reserves.moves (reserves : scene.Reserves ring) (coherent : scene.Coherent)
    (moves : scene.Moves events next) (spares : ∀ event ∈ events, event.Spares ring)
    (once : next.master.slaves.FeedsOnce ring)
    : next.Reserves ring := by
  induction moves with
  | nil => exact reserves
  | cons move rest ih =>
      refine ih ?_ (coherent.move move)
        (fun event member => spares event (List.mem_cons_of_mem _ member)) once
      refine reserves.move coherent move (spares _ List.mem_cons_self) ?_
      intro first second one other found there feeds fed
      have later := Moves.cons move rest
      exact once (later.known found) (later.known there) feeds fed

end Scene

end TwoWire
