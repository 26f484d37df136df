import TwoWire.Proofs.CaptureLog
import TwoWire.Proofs.CaptureSafety
import TwoWire.Proofs.ExactlyOnce
import TwoWire.Proofs.Readings

/-! What decoding averages, over whole runs.

While the bus of a sensor is idle the two slots of its ring hold the captures whose completions
were handled last. While the bus is busy, whoever is busy with it, the slot at the cursor may hold
anything, and the other one holds the last of these captures.
-/

namespace TwoWire

open Scene
open Magnetometer

namespace SampleRing

/-- The number of an axis in a capture, which has two bytes for each axis. -/
def captureWord (data : List UInt8) (axis : Axis) : Int :=
  let position := 2 * axis.index.val
  bigEndian (data.getD position 0) (data.getD (position + 1) 0)

theorem get_captured (data : List UInt8) (axis : Axis)
    : (captured data).get axis = captureWord data axis := by
  rw [captured, Axes.get_ofFn, signedWord_eq]
  rfl

end SampleRing

-----------------------------------------------------------------------------------------
-- The slots that are used
-----------------------------------------------------------------------------------------

namespace Magnetometer.Sensor

theorem usedSlots_busy (cursor : Fin 2)
    : usedSlots cursor true = [cursor + 1] := by
  revert cursor
  decide

theorem usedSlots_idle (cursor : Fin 2)
    : usedSlots cursor false = [0, 1] := by
  revert cursor
  decide

theorem sum_of_one (sample : Fin 2 → Axes Int) (slot : Fin 2)
    : (Axes.ofFn fun axis =>
        ([slot].map fun used => (sample used).get axis).foldl (· + ·) 0)
      = sample slot := by
  simp only [List.map_cons, List.map_nil, List.foldl_cons, List.foldl_nil, Int.zero_add]
  rfl

/-- Both slots are summed up, whichever of them is named first. -/
theorem sum_of_both (sample : Fin 2 → Axes Int) (slot : Fin 2)
    : (Axes.ofFn fun axis =>
        ([0, 1].map fun used => (sample used).get axis).foldl (· + ·) 0)
      = Axes.zipWith (· + ·) (sample slot) (sample (slot + 1)) := by
  simp only [List.map_cons, List.map_nil, List.foldl_cons, List.foldl_nil, Int.zero_add]
  rcases (by omega : slot = 0 ∨ slot = 1) with rfl | rfl
  · rfl
  · simp only [Axes.zipWith, Int.add_comm (sample 1).x, Int.add_comm (sample 1).y,
      Int.add_comm (sample 1).z]
    rfl

-- The sums are computed above for any numbers in the slots: looking at how a slot is read there
-- would make the check of additions compute with its bytes.

theorem sums_busy (ring : SampleRing)
    : sums ring (usedSlots ring.cursor true) = ring.sample (ring.cursor + 1) := by
  rw [usedSlots_busy]
  exact sum_of_one ring.sample (ring.cursor + 1)

theorem sums_idle (ring : SampleRing)
    : sums ring (usedSlots ring.cursor false)
      = Axes.zipWith (· + ·) (ring.sample ring.cursor) (ring.sample (ring.cursor + 1)) := by
  rw [usedSlots_idle]
  exact sum_of_both ring.sample ring.cursor

/-- An enabled sensor decodes the slot beside the cursor, and while its bus is idle both slots. -/
theorem decode_of_enabled {sensor : Sensor} (enabled : sensor.state = .enabled) (master : Master)
    (temperature : Float32) (now : Nat)
    : let ring := master.memory.ring sensor.ring
      ∃ reading,
        (sensor.decode master temperature now).1 = some reading
        ∧ if (master.bus sensor.config.bus).isBusy then
            reading.Averages sensor (ring.sample (ring.cursor + 1)).get 1 temperature now
          else
            reading.Averages sensor
              (Axes.zipWith (· + ·) (ring.sample ring.cursor) (ring.sample (ring.cursor + 1))).get
              2 temperature now := by
  intro ring
  obtain ⟨reading, decoded, averages⟩ := decode_averages_used enabled master temperature now
  refine ⟨reading, decoded, ?_⟩
  cases busy : (master.bus sensor.config.bus).isBusy with
  | true =>
      rw [busy, sums_busy, usedSlots_busy] at averages
      rw [if_pos rfl]
      exact averages
  | false =>
      rw [busy, sums_idle, usedSlots_idle] at averages
      rw [if_neg Bool.false_ne_true]
      exact averages

end Magnetometer.Sensor

-----------------------------------------------------------------------------------------
-- The captures of a run
-----------------------------------------------------------------------------------------

namespace Bench

/-- The bytes that an action lets land in a ring. -/
def landing (bench : Bench) (ring : Nat) : Action → Option (List UInt8)
  | .deliver bus data =>
    if (bench.reception bus).map Window.region = some (.ring ring) then some data else none
  | _ => none

/-- What an action adds to the log of the captures that a slave makes into a ring: bytes that land
there, or the completion that the slave is told.
-/
def note (bench : Bench) (ring : Nat) (handle : Handle) (log : CaptureLog) (action : Action)
    : CaptureLog :=
  match bench.landing ring action with
  | some data => log.land data
  | none => if (bench.step action).1.told? = some handle then log.settle else log

/-- The captures that a slave makes into a ring in a run. -/
def collect (bench : Bench) (ring : Nat) (handle : Handle) (log : CaptureLog)
    : List Action → CaptureLog
  | [] => log
  | action :: rest =>
    (bench.step action).2.collect ring handle (bench.note ring handle log action) rest

/-- A sensor has a ring of its own: clients keep away from its memory, and a completion is signalled
to it by the master only. The slave of the sensor is given streams by data-ready edges only, each
capture is finished with all its bytes, and transfer-complete flags are raised by the end of
transfers only.
-/
structure Tends (index ring : Nat) (handle : Handle) (bench : Bench) (action : Action) : Prop where
  keeps : action.Keeps (.outside [ring])
  apart
    : ∀ place sensor,
        action = .advanceRing place → bench.sensors[place]? = some sensor → sensor.ring ≠ ring
  own : action ≠ .sensor index .dataReady → handle ∉ bench.accepts action
  whole : ∀ data, bench.landing ring action = some data → data.length = SampleRing.captureLength

variable {index ring : Nat} {handle : Handle} {log : CaptureLog} {trials : PerBus (Option Nat)}
  {bench : Bench} {action : Action} {sensor : Sensor}

/-- An action that delivers as many bytes as a capture, or none, follows the rule if it keeps away
from the ring and gives the slave no stream.
-/
theorem Tends.of_whole (keeps : action.Keeps (.outside [ring]))
    (apart : ∀ place, action ≠ .advanceRing place)
    (own : action ≠ .sensor index .dataReady → handle ∉ bench.accepts action)
    (whole : ∀ bus data, action = .deliver bus data → data.length = SampleRing.captureLength)
    : bench.Tends index ring handle action where
  keeps := keeps
  apart place _ same := absurd same (apart place)
  own := own
  whole data landed := by
    cases action with
    | deliver bus received =>
        simp only [landing] at landed
        split at landed
        · obtain rfl := Option.some.inj landed
          exact whole bus _ rfl
        · simp at landed
    | _ => simp [landing] at landed

/-- The sensor is the only one with this ring, and the log of its captures is right. -/
structure Gathers (index ring : Nat) (handle : Handle) (log : CaptureLog) (bench : Bench)
    : Prop where
  owns : ∀ place, (bench.sensors.map Sensor.ring)[place]? = some ring ↔ place = index
  gathered
    : ∃ trials,
        bench.Tracks (.outside [ring]) trials
        ∧ Scene.Gathers ⟨bench.master, trials⟩ ring handle log

/-- Bytes that land are noted as their event is. -/
theorem note_deliver (bus : BusId) (data : List UInt8)
    : bench.note ring handle log (.deliver bus data)
      = ((bench.reception bus).toList.map fun window =>
          Scene.Event.land bus .rx window data).foldl (Scene.Event.note ring handle) log := by
  have untold : (bench.step (.deliver bus data)).1.told? = none := by
    rw [Answer.told?, notice_eq_none (by simp)]
    rfl
  simp only [note, landing, untold]
  cases bench.reception bus with
  | none => rfl
  | some window =>
      by_cases target : window.region = .ring ring <;> simp [Scene.Event.note, target]

/-- What is no delivery is noted as the events that it causes are. -/
theorem Accounts.note_eq {rules : ClientRules} {left : PerBus (Option Nat)} {accepted : List Handle}
    {events : List Scene.Event}
    (accounts : bench.Accounts rules trials action (bench.step action) accepted events left)
    (other : ∀ bus data, action ≠ .deliver bus data)
    : bench.note ring handle log action = events.foldl (Scene.Event.note ring handle) log := by
  have dry (event : Scene.Event) (member : event ∈ events) (id : BusId) (window : Window)
      (data : List UInt8)
      : event ≠ .land id .rx window data := by
    rintro rfl
    exact other id data (accounts.causes _ member)
  have none : bench.landing ring action = none := by
    cases action with
    | deliver bus data => exact absurd rfl (other bus data)
    | _ => rfl
  rw [Scene.foldl_note_of_dry dry, accounts.told, note, none, Answer.told?]
  cases (bench.step action).1.notice with
  | none => rfl
  | some notice => simp

/-- An action that follows the rule is accounted for by events that do, by cases on whether it is a
delivery, a data-ready edge of the sensor, or something else.
-/
theorem Gathers.accounts (gathers : bench.Gathers index ring handle log)
    (tends : bench.Tends index ring handle action)
    (tracks : bench.Tracks (.outside [ring]) trials)
    : ∃ accepted events left,
        bench.Accounts (.outside [ring]) trials action (bench.step action) accepted events left
        ∧ (∀ event ∈ events, event.Tends ring handle)
        ∧ bench.note ring handle log action
          = events.foldl (Scene.Event.note ring handle) log := by
  by_cases delivers : ∃ bus data, action = .deliver bus data
  · obtain ⟨bus, data, rfl⟩ := delivers
    refine ⟨_, _, _, tracks.delivers bus data, ?_, note_deliver bus data⟩
    intro event member
    obtain ⟨window, received, rfl⟩ := List.mem_map.mp member
    intro target
    refine tends.whole data ?_
    simp [landing, Option.mem_toList.mp received, target]
  · have other (bus : BusId) (data : List UInt8) : action ≠ .deliver bus data :=
      fun same => delivers ⟨bus, data, same⟩
    have still (event : Scene.Event) (caused : event.CausedBy (.outside [ring]) bench action)
        (streams
          : ∀ origin slave operation,
              event = .serve origin slave operation
              → handle ∈ operation.streams
              → origin = .capture ring)
        : event.Tends ring handle := by
      cases event with
      | serve origin slave operation => exact streams origin slave operation rfl
      | land bus stream window data =>
          cases stream with
          | rx => exact absurd caused (other bus data)
          | tx => exact True.intro
      | prepare | enter | claim | pause | conclude | close | advance | touch | forget =>
          exact True.intro
    by_cases edge : action = .sensor index .dataReady
    · subst edge
      obtain ⟨sensor, here, own⟩ :
          ∃ sensor, bench.sensors[index]? = some sensor ∧ sensor.ring = ring := by
        simpa using (gathers.owns index).mpr rfl
      obtain ⟨events, accounts, captures⟩ := tracks.captures here
      have stepped
          : bench.step (.sensor index .dataReady) = bench.stepSensor index sensor .dataReady := by
        simp only [Bench.step, here]
      rw [← stepped] at accounts
      refine ⟨_, events, trials, accounts, ?_, accounts.note_eq other⟩
      intro event member
      refine still event (accounts.causes event member) ?_
      rintro origin slave operation rfl -
      obtain ⟨_, same⟩ := captures _ member
      obtain ⟨rfl, -, -⟩ := (Scene.Event.serve.injEq ..).mp same
      rw [own]
    · obtain ⟨events, left, accounts, -⟩ := tracks.step tends.keeps
      refine ⟨_, events, left, accounts, ?_, accounts.note_eq other⟩
      intro event member
      refine still event (accounts.causes event member) ?_
      rintro origin slave operation rfl streams
      refine absurd ?_ (tends.own edge)
      rw [← accounts.streams]
      exact List.mem_flatMap.mpr ⟨_, member, streams⟩

/-- An action that follows the rule leaves the log right, since the events that it causes do. -/
theorem Gathers.step (gathers : bench.Gathers index ring handle log)
    (tends : bench.Tends index ring handle action)
    (fed : (bench.step action).2.master.slaves.FedBy ring handle)
    : (bench.step action).2.Gathers index ring handle (bench.note ring handle log action) := by
  obtain ⟨trials, tracks, gathered⟩ := gathers.gathered
  obtain ⟨accepted, events, left, accounts, tend, noted⟩ := gathers.accounts tends tracks
  refine ⟨?_, left, accounts.tracks, ?_⟩
  · rw [rings_of_slaves accounts.sensors]
    exact gathers.owns
  · rw [noted]
    refine gathered.moves tracks.coherent accounts.moves ?_ tend fed
    exact fun event member => (accounts.causes event member).spares List.mem_cons_self tends.apart

/-- An action adds a capture to those that were handled exactly when it tells the slave: then a
capture has landed, since a completion of the slave waits.
-/
theorem Gathers.length_note (gathers : bench.Gathers index ring handle log)
    (action : Action)
    : (bench.note ring handle log action).handled.length
      = log.handled.length + (bench.step action).1.told?.toList.count handle := by
  obtain ⟨trials, tracks, gathered⟩ := gathers.gathered
  have tells := tracks.answers action
  cases told : (bench.step action).1.notice with
  | none =>
      simp only [note, Answer.told?, told]
      cases bench.landing ring action <;> rfl
  | some notice =>
      rw [told] at tells
      cases tells with
      | told tells =>
          simp only [note, landing, Answer.told?, told, Option.map_some, Option.some.injEq]
          by_cases own : notice.handle = handle
          · subst own
            obtain ⟨peripheral, here, flag⟩ := tells.flag
            have landed := gathered.landed tracks.coherent tells.held here flag
            obtain ⟨data, landed⟩ := Option.isSome_iff_exists.mp landed
            simp [CaptureLog.settle, CaptureLog.all, landed]
          · simp [own]

/-- A sensor that has a ring of its own feeds it, and no one else does. -/
theorem Tracks.fedBy (tracks : bench.Tracks (.outside [ring]) trials)
    (owns : ∀ place, (bench.sensors.map Sensor.ring)[place]? = some ring ↔ place = index)
    (here : bench.sensors[index]? = some sensor) (held : sensor.handle.load = some handle)
    : bench.master.slaves.FedBy ring handle := by
  have own : sensor.ring = ring := by
    simpa [here] using (owns index).mpr rfl
  intro place slave found
  refine ⟨fun feeds => ?_, ?_⟩
  · obtain ⟨other, member, known, -, same⟩ :=
      tracks.sensor_of_feeds List.mem_cons_self found feeds
    obtain ⟨position, there⟩ := List.getElem?_of_mem member
    obtain rfl := (owns position).mp (by simp [there, same])
    obtain rfl := Option.some.inj (here.symm.trans there)
    exact Option.some.inj (known.symm.trans held)
  · rintro rfl
    obtain rfl := Option.some.inj (((tracks.homed here).known _ held).symm.trans found)
    exact congrArg Reaction.advanceRing own

/-- A run leaves the log right that it collects, by induction over its actions. The last table
decides which slave feeds the ring.
-/
theorem Gathers.run {actions : List Action} (gathers : bench.Gathers index ring handle log)
    (follows : Follows (Tends index ring handle) bench actions)
    (fed : (bench.run actions).2.master.slaves.FedBy ring handle)
    : (bench.run actions).2.Gathers index ring handle (bench.collect ring handle log actions)
      ∧ (bench.collect ring handle log actions).handled.length
        = log.handled.length + ((bench.run actions).1.filterMap Answer.told?).count handle := by
  induction actions generalizing bench log with
  | nil => exact ⟨gathers, rfl⟩
  | cons action rest ih =>
      obtain ⟨trials, tracks, -⟩ := gathers.gathered
      obtain ⟨events, left, accounts, -⟩ := tracks.step follows.1.keeps
      obtain ⟨-, -, -, known⟩ := follows.2.tracks (fun _ _ tends => tends.keeps) accounts.tracks
      have now := fed.of_known known
      obtain ⟨final, length⟩ := ih (gathers.step follows.1 now) follows.2 fed
      refine ⟨final, length.trans ?_⟩
      rw [gathers.length_note action, Nat.add_assoc, ← List.count_append]
      rw [Bench.run, List.filterMap_cons]
      cases (bench.step action).1.told? <;> rfl

/-- While the bus of the sensor is idle no capture waits for its completion to be handled. -/
theorem Gathers.landed_eq_none (gathers : bench.Gathers index ring handle log)
    (here : bench.sensors[index]? = some sensor) (held : sensor.handle.load = some handle)
    (free : (bench.master.bus sensor.config.bus).isBusy = false)
    : log.landed = none := by
  obtain ⟨trials, tracks, gathered⟩ := gathers.gathered
  refine Option.not_isSome_iff_eq_none.mp (fun landed => ?_)
  obtain ⟨id, owned, -⟩ := gathered.waits.mp landed
  obtain ⟨slave, -, found, home, -⟩ := (tracks.coherent.buses id).owner_known owned
  obtain rfl := Option.some.inj (((tracks.homed here).known _ held).symm.trans found)
  obtain rfl : sensor.config.bus = id := home
  rw [Bus.isBusy, HandleCell.isSome_eq] at free
  have busy := congrArg Option.isSome owned
  exact absurd (free.symm.trans busy) (by simp)

theorem gathers_assemble {capacity : Fin 255} {paces : PerBus (Option Pace)}
    {buffers : List (List UInt8)} {sensors : List (Config × Nat)}
    (owns : ∀ place, (sensors.map Prod.snd)[place]? = some ring ↔ place = index)
    (there : ring < sensors.length)
    : (assemble capacity paces buffers sensors).Gathers index ring handle .empty := by
  have rings
      : (assemble capacity paces buffers sensors).sensors.map Sensor.ring
        = sensors.map Prod.snd := by
    simp [assemble, Bench.new, Sensor.new, Function.comp_def]
  have idle (id : BusId)
      : ((assemble capacity paces buffers sensors).master.bus id).owner = none := by
    simp [assemble, Bench.new, Master.new, Master.bus, Bus.new, Bus.owner]
  have new
      : (assemble capacity paces buffers sensors).master.memory.rings[ring]?
        = some SampleRing.new := by
    simp [assemble, Bench.new, Master.new, there]
  refine ⟨rings ▸ owns, _, tracks_assemble capacity paces buffers sensors, ?_, ?_, ?_, ?_⟩
  · intro id other window streams
    have held := streams.held
    simp [idle id] at held
  · intro id kind register window held
    simp [idle id] at held
  · refine ⟨by simp [CaptureLog.empty], ?_⟩
    rintro ⟨id, held, -⟩
    simp [idle id] at held
  · refine ⟨?_, ?_, ?_, ?_⟩
    · simp [Memory.bytes, new, SampleRing.new]
    · simp [Memory.ring, new, SampleRing.new, CaptureLog.empty]
    · simp [CaptureLog.all, CaptureLog.empty]
    · intro slot _
      rw [show (assemble capacity paces buffers sensors).master.memory.ring ring = SampleRing.new by
        simp [Memory.ring, new]]
      revert slot
      decide

-----------------------------------------------------------------------------------------
-- Every run
-----------------------------------------------------------------------------------------

/-- In every run in which a sensor has a ring of its own, its slave is given streams by data-ready
edges only and each capture is finished with all its bytes, the cursor of the ring has moved on once
for each completion that the slave was told. An enabled sensor then decodes the last two captures
whose completions were handled, averaged over both, or while its bus is busy the last one alone. A
capture that is armed, or that has landed and was not handled yet, is in neither.
-/
theorem decode_averages_last {capacity : Fin 255} {paces : PerBus (Option Pace)}
    {buffers : List (List UInt8)} {sensors : List (Config × Nat)} {actions : List Action}
    {index ring : Nat} {handle : Handle}
    (owns : ∀ place, (sensors.map Prod.snd)[place]? = some ring ↔ place = index)
    (there : ring < sensors.length)
    (follows
      : Follows (Tends index ring handle) (assemble capacity paces buffers sensors) actions)
    {sensor : Sensor}
    (here
      : ((assemble capacity paces buffers sensors).run actions).2.sensors[index]? = some sensor)
    (held : sensor.handle.load = some handle)
    : let answers := ((assemble capacity paces buffers sensors).run actions).1
      let bench := ((assemble capacity paces buffers sensors).run actions).2
      let captures :=
        ((assemble capacity paces buffers sensors).collect ring handle .empty actions).handled
      captures.length = (answers.filterMap Answer.told?).count handle
      ∧ (bench.master.memory.ring sensor.ring).cursor.val = captures.length % 2
      ∧ ∀ earlier before last, captures = earlier ++ [before, last]
        → sensor.state = .enabled
        → ∀ temperature now,
            ∃ reading,
              (sensor.decode bench.master temperature now).1 = some reading
              ∧ if (bench.master.bus sensor.config.bus).isBusy then
                  reading.Averages sensor (SampleRing.captureWord last) 1 temperature now
                else
                  reading.Averages sensor
                    (fun axis =>
                      SampleRing.captureWord before axis + SampleRing.captureWord last axis)
                    2 temperature now := by
  have start : (assemble capacity paces buffers sensors).Gathers index ring handle .empty :=
    gathers_assemble owns there
  obtain ⟨left, tracks, same, -⟩ :=
    follows.tracks (fun _ _ tends => tends.keeps) (tracks_assemble capacity paces buffers sensors)
  have fed := tracks.fedBy (rings_of_slaves same ▸ start.owns) here held
  obtain ⟨gathers, length⟩ := start.run follows fed
  generalize (assemble capacity paces buffers sensors).collect ring handle .empty actions = log
    at gathers length ⊢
  generalize (assemble capacity paces buffers sensors).run actions = outcome
    at here gathers length ⊢
  obtain ⟨answers, bench⟩ := outcome
  obtain rfl : sensor.ring = ring := by
    simpa [here] using (gathers.owns index).mpr rfl
  obtain ⟨trials, -, gathered⟩ := gathers.gathered
  refine ⟨by simpa [CaptureLog.empty] using length, gathered.holds.cursor, ?_⟩
  intro earlier before last handled enabled temperature now
  have split : log.handled = (earlier ++ [before]) ++ [last] := by simpa using handled
  have newest := gathered.holds.sample_last split
  obtain ⟨reading, decoded, averages⟩ :=
    Sensor.decode_of_enabled enabled bench.master temperature now
  refine ⟨reading, decoded, ?_⟩
  cases busy : (bench.master.bus sensor.config.bus).isBusy with
  | true =>
      rw [busy, if_pos rfl, newest, funext (SampleRing.get_captured last)] at averages
      exact averages
  | false =>
      have older := gathered.holds.sample_before (gathers.landed_eq_none here held busy) handled
      have sums (axis : Axis)
          : (Axes.zipWith (· + ·) (SampleRing.captured before) (SampleRing.captured last)).get axis
            = SampleRing.captureWord before axis + SampleRing.captureWord last axis := by
        rw [Axes.get_zipWith, SampleRing.get_captured, SampleRing.get_captured]
      rw [busy, if_neg Bool.false_ne_true, newest, older, funext sums] at averages
      exact averages

/-- Two captures of a sensor that lies upside down are averaged while its bus is idle. The sensor
was switched off and on again during the second capture, and an edge was dropped then. A third
capture keeps the bus busy until it is handled, though it has landed, so the second one is decoded
alone.
-/
theorem decode_averages_last_while_busy
    : let sensors : List (Config × Nat) := [({ Config.factory with gaussPerCount := 1 }, 0)]
      let table := ParameterTable.ofFn fun
        | .scale _ 0 => 1
        | .mounting => 1
        | _ => 0
      let handled : List Action :=
        [.sensor 0 .register, .arrange .i2c1 (.fallback identityCode),
          .sensor 0 (.bringUp table false none), .sensor 0 .enable,
          .sensor 0 .dataReady, .deliver .i2c1 [0, 1, 0, 2, 0, 3], .complete .i2c1 .rx,
          .sensor 0 .dataReady, .sensor 0 .disable, .deliver .i2c1 [0, 5, 0, 6, 255, 254],
          .sensor 0 .enable, .sensor 0 .dataReady, .complete .i2c1 .rx]
      let landed : List Action :=
        handled ++ [.sensor 0 .dataReady, .deliver .i2c1 [9, 9, 9, 9, 9, 9]]
      let start := assemble 2 ⟨some .instant, none, none⟩ [] sensors
      let cursor (actions : List Action) := ((start.run actions).2.master.memory.ring 0).cursor
      let decoded (actions : List Action) (temperature : Float32) (now : Nat) :=
        ((start.run actions).2.sensors[0]?).bind fun sensor =>
          ((sensor.decode (start.run actions).2.master temperature now).1).map Reading.raw
      cursor handled = 0
      ∧ cursor landed = 0
      ∧ (∀ temperature now, decoded handled temperature now = some ⟨3, -4, 0.5⟩)
      ∧ ∀ temperature now, decoded landed temperature now = some ⟨5, -6, -2⟩ := by
  intro sensors table handled landed start cursor decoded
  have edge {bench : Bench} : bench.Tends 0 0 ⟨0⟩ (.sensor 0 .dataReady) :=
    .of_whole True.intro (by simp) (by simp) (by simp)
  have whole : Follows (Tends 0 0 ⟨0⟩) start landed := by
    refine ⟨?_, ?_, ?_, ?_, edge, ?_, ?_, edge, ?_, ?_, ?_, edge, ?_, edge, ?_, True.intro⟩ <;>
      refine .of_whole True.intro (by simp) (fun _ => ?_) (by simp [SampleRing.captureLength]) <;>
      decide +kernel
  have owns (place : Nat) : (sensors.map Prod.snd)[place]? = some 0 ↔ place = 0 := by
    cases place <;> simp [sensors]
  -- both runs end with the same sensor and the same captures, and the bus makes the difference
  have averages (busy : Bool) {actions : List Action}
      (follows : Follows (Tends 0 0 ⟨0⟩) start actions)
      (shown
        : ((start.run actions).2.sensors[0]?).map (fun sensor =>
            (sensor.handle.load, sensor.state, sensor.config.bus, sensor.config.gaussPerCount,
              sensor.calibration.mounting))
          = some (some ⟨0⟩, .enabled, .i2c1, 1, .aboutX))
      (captures
        : (start.collect 0 ⟨0⟩ .empty actions).handled
          = [] ++ [[0, 1, 0, 2, 0, 3], [0, 5, 0, 6, 255, 254]])
      (holds : ((start.run actions).2.master.bus .i2c1).isBusy = busy)
      (temperature : Float32) (now : Nat)
      : ∃ (sensor : Sensor) (reading : Reading),
          decoded actions temperature now = some reading.raw
          ∧ sensor.config.gaussPerCount = 1
          ∧ sensor.calibration.mounting = .aboutX
          ∧ if busy then
              reading.Averages sensor (SampleRing.captureWord [0, 5, 0, 6, 255, 254]) 1
                temperature now
            else
              reading.Averages sensor
                (fun axis =>
                  SampleRing.captureWord [0, 1, 0, 2, 0, 3] axis
                    + SampleRing.captureWord [0, 5, 0, 6, 255, 254] axis)
                2 temperature now := by
    obtain ⟨sensor, here, facts⟩ := Option.map_eq_some_iff.mp shown
    simp only [Prod.mk.injEq] at facts
    obtain ⟨held, enabled, home, gauss, mounting⟩ := facts
    obtain ⟨-, -, decodes⟩ := decode_averages_last owns (by decide) follows here held
    obtain ⟨reading, answered, averages⟩ := decodes _ _ _ captures enabled temperature now
    rw [home, holds] at averages
    refine ⟨sensor, reading, ?_, gauss, mounting, averages⟩
    simp only [decoded, here, Option.bind_some]
    rw [answered, Option.map_some]
  have first : Follows (Tends 0 0 ⟨0⟩) start handled := whole.split.1
  refine ⟨by decide +kernel, by decide +kernel, fun temperature now => ?_,
    fun temperature now => ?_⟩
  · obtain ⟨sensor, reading, same, gauss, mounting, averages⟩ :=
      averages false first (by decide +kernel) (by decide +kernel) (by decide +kernel)
        temperature now
    refine same.trans (congrArg some (Axes.ext_get fun axis => ?_))
    rw [averages.raw, gauss, mounting]
    cases axis <;> decide +kernel
  · obtain ⟨sensor, reading, same, gauss, mounting, averages⟩ :=
      averages true whole (by decide +kernel) (by decide +kernel) (by decide +kernel)
        temperature now
    refine same.trans (congrArg some (Axes.ext_get fun axis => ?_))
    rw [averages.raw, gauss, mounting]
    cases axis <;> decide +kernel

end Bench

end TwoWire
