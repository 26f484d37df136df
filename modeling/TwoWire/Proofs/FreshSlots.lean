import TwoWire.Proofs.Averages

/-! What decoding makes of slots that no capture has filled yet.

A ring does not record which of its slots were filled. Decoding leaves out the slot at the cursor of
a busy bus and counts the other ones, so until two captures were completed it may count a slot that
still reads zero.
-/

namespace TwoWire

open Magnetometer

-----------------------------------------------------------------------------------------
-- Sums over some of the slots
-----------------------------------------------------------------------------------------

namespace Magnetometer.Sensor

/-- Slots that read zero add nothing, whatever the sum was before them. -/
theorem foldl_filter {filled : Fin 2 → Bool} {value : Fin 2 → Int} {used : List (Fin 2)}
    (fresh : ∀ slot ∈ used, filled slot = false → value slot = 0) (start : Int)
    : ((used.filter filled).map value).foldl (· + ·) start
      = (used.map value).foldl (· + ·) start := by
  induction used generalizing start with
  | nil => rfl
  | cons slot rest ih =>
      have rest_fresh := fun other member => fresh other (List.mem_cons_of_mem slot member)
      cases filled_slot : filled slot with
      | true => simp only [List.filter_cons, filled_slot, if_true, List.map_cons,
          List.foldl_cons, ih rest_fresh]
      | false =>
          have zero := fresh slot List.mem_cons_self filled_slot
          simp only [List.filter_cons, filled_slot, Bool.false_eq_true, if_false, List.map_cons,
            List.foldl_cons, zero, Int.add_zero, ih rest_fresh]

theorem sums_filter {filled : Fin 2 → Bool} {ring : SampleRing} {used : List (Fin 2)}
    (fresh : ∀ slot ∈ used, filled slot = false → ring.sample slot = .replicate 0)
    : sums ring (used.filter filled) = sums ring used := by
  refine congrArg Axes.ofFn (funext fun axis => foldl_filter (fun slot member unfilled => ?_) 0)
  rw [fresh slot member unfilled]
  exact Axes.get_ofFn _ axis

end Magnetometer.Sensor

namespace Memory

variable {memory : Memory} {ring : Nat} {log : CaptureLog}

/-- The first capture stands alone in the slots that captures were made into. -/
theorem Holds.sums_only (holds : memory.Holds ring log) {only : List UInt8}
    (handled : log.handled = [only]) (busy : Bool)
    : Sensor.sums (memory.ring ring)
        ((Sensor.usedSlots (memory.ring ring).cursor busy).filter (·.val < log.handled.length))
      = SampleRing.captured only := by
  have cursor : (memory.ring ring).cursor = 1 := Fin.ext (by rw [holds.cursor, handled]; rfl)
  have first := holds.sample_last (show log.handled = [] ++ [only] from handled)
  have filled : (Sensor.usedSlots 1 busy).filter (·.val < [only].length) = [1 + 1] := by
    cases busy <;> rfl
  rw [← first, cursor, handled, filled]
  exact Sensor.sum_of_one (memory.ring ring).sample (1 + 1)

end Memory

namespace Bench

variable {index ring : Nat} {handle : Handle} {slot : Fin 2} {log : CaptureLog} {bench : Bench}

-----------------------------------------------------------------------------------------
-- Slots that a run fills
-----------------------------------------------------------------------------------------

/-- The action completes a capture into a slot of the ring: it tells the slave, and this closes a
read of the slave into the slot.
-/
def Completes (ring : Nat) (handle : Handle) (slot : Fin 2) (bench : Bench) (action : Action)
    : Prop :=
  (bench.step action).1.told? = some handle
  ∧ ∃ id register,
      (bench.master.bus id).owner = some handle
      ∧ (bench.master.bus id).served.getLast?
        = some (.stream .read handle register (Sensor.captureWindow ring slot))

/-- A slot of the ring is filled in a run: some action of it completes a capture into the slot. -/
def Fills (ring : Nat) (handle : Handle) (slot : Fin 2) : Bench → List Action → Prop
  | _, [] => False
  | bench, action :: rest =>
    bench.Completes ring handle slot action ∨ Fills ring handle slot (bench.step action).2 rest

/-- A capture that is completed was made into the slot at the cursor, which the number of those
before it tells.
-/
theorem Gathers.completes_iff (gathers : bench.Gathers index ring handle log) (action : Action)
    : bench.Completes ring handle slot action
      ↔ (bench.step action).1.told? = some handle ∧ slot.val = log.handled.length % 2 := by
  obtain ⟨trials, tracks, gathered⟩ := gathers.gathered
  refine and_congr_right (fun told => ⟨?_, fun parity => ?_⟩)
  · rintro ⟨id, register, held, last⟩
    obtain ⟨same, -⟩ := gathered.reserves id handle _ ⟨held, _, _, last⟩ rfl
    have atCursor := Window.captureWindow_reaches_iff.mp
      (same ▸ Window.captureWindow_reaches_iff.mpr (rfl : slot = slot))
    rw [atCursor]
    exact gathered.holds.cursor
  · obtain ⟨notice, noticed, own⟩ := Option.map_eq_some_iff.mp told
    have tells := tracks.answers action
    rw [noticed] at tells
    cases tells with
    | @told id _ _ tells =>
        obtain ⟨peripheral, here, flag⟩ := tells.flag
        obtain ⟨-, kind, owner, register, window, -, -, held, -, -, last, -⟩ :=
          (tracks.coherent.buses id).landed_of_completed here flag
        obtain rfl : owner = handle :=
          Option.some.inj (held.symm.trans (tells.held.trans (congrArg some own)))
        obtain ⟨rfl, target⟩ := gathered.captures id kind register window held last
        obtain ⟨capture, -⟩ := gathered.reserves id owner window ⟨held, _, _, last⟩ target
        have atCursor : slot = (bench.master.memory.ring ring).cursor :=
          Fin.ext (parity.trans gathered.holds.cursor.symm)
        exact ⟨id, register, held, by rw [last, capture, atCursor]⟩

/-- A run fills the slots of the captures that it adds to the log, by induction over its actions. -/
theorem Gathers.fills_iff {actions : List Action} (gathers : bench.Gathers index ring handle log)
    (follows : Follows (Tends index ring handle) bench actions)
    (fed : (bench.run actions).2.master.slaves.FedBy ring handle)
    : bench.Fills ring handle slot actions
      ↔ ∃ number,
          log.handled.length ≤ number
          ∧ number < (bench.collect ring handle log actions).handled.length
          ∧ slot.val = number % 2 := by
  induction actions generalizing bench log with
  | nil =>
      simp only [Fills, collect, false_iff]
      rintro ⟨number, low, high, -⟩
      omega
  | cons action rest ih =>
      obtain ⟨trials, tracks, -⟩ := gathers.gathered
      obtain ⟨events, left, accounts, -⟩ := tracks.step follows.1.keeps
      obtain ⟨-, -, -, known⟩ := follows.2.tracks (fun _ _ tends => tends.keeps) accounts.tracks
      have next := gathers.step follows.1 (fed.of_known known)
      have grown := (next.run follows.2 fed).2
      have noted := gathers.length_note action
      rw [Fills, gathers.completes_iff, ih next follows.2 fed, collect, grown, noted]
      by_cases told : (bench.step action).1.told? = some handle
      · simp only [told, Option.toList_some, List.count_singleton_self, true_and]
        constructor
        · rintro (first | ⟨number, low, high, parity⟩)
          · exact ⟨_, Nat.le_refl _, by omega, first⟩
          · exact ⟨number, by omega, high, parity⟩
        · rintro ⟨number, low, high, parity⟩
          rcases Nat.eq_or_lt_of_le low with rfl | later
          · exact .inl parity
          · exact .inr ⟨number, later, high, parity⟩
      · have uncounted : (bench.step action).1.told?.toList.count handle = 0 :=
          List.count_eq_zero.mpr (fun member => told (Option.mem_toList.mp member))
        simp only [told, uncounted, false_and, false_or, Nat.add_zero]

/-- While the bus of the sensor is idle every capture that has landed was completed, and while it is
busy only the slot at the cursor may hold one that was not. A slot that is counted reads zero unless
it was filled.
-/
theorem Gathers.sample_fresh {sensor : Sensor} (gathers : bench.Gathers index ring handle log)
    (here : bench.sensors[index]? = some sensor) (held : sensor.handle.load = some handle)
    (counted
      : slot ∈ Sensor.usedSlots (bench.master.memory.ring ring).cursor
          (bench.master.bus sensor.config.bus).isBusy)
    (unfilled : log.handled.length ≤ slot.val)
    : (bench.master.memory.ring ring).sample slot = .replicate 0 := by
  obtain ⟨trials, -, gathered⟩ := gathers.gathered
  have cursor : (bench.master.memory.ring ring).cursor.val = log.handled.length % 2 :=
    gathered.holds.cursor
  refine gathered.holds.fresh slot ?_
  cases busy : (bench.master.bus sensor.config.bus).isBusy with
  | false => simpa [CaptureLog.all, gathers.landed_eq_none here held busy] using unfilled
  | true =>
      rw [busy, Sensor.usedSlots_busy, List.mem_singleton] at counted
      have parity := congrArg Fin.val counted
      rw [Fin.val_add, Fin.val_one] at parity
      have one : log.all.length ≤ log.handled.length + 1 := by
        cases landed : log.landed <;> simp [CaptureLog.all, landed]
      omega

/-- The slots that decoding counts were all filled if two captures were completed, or if one was and
the bus is busy.
-/
theorem filled_of_used_iff {cursor : Fin 2} {completed : Nat} (busy : Bool)
    (parity : cursor.val = completed % 2)
    : (∀ slot ∈ Sensor.usedSlots cursor busy, slot.val < completed)
      ↔ 2 ≤ completed ∨ (completed = 1 ∧ busy = true) := by
  cases busy with
  | true =>
      simp only [Sensor.usedSlots_busy, List.forall_mem_singleton, Fin.val_add, Fin.val_one,
        and_true]
      omega
  | false =>
      simp only [Sensor.usedSlots_idle, List.forall_mem_cons, List.not_mem_nil, Fin.val_zero,
        Fin.val_one, Bool.false_eq_true]
      grind

/-- The captures go into the two slots in turn, so a slot is filled as soon as there were more of
them than its number.
-/
theorem fills_assemble_iff {capacity : Fin 255} {paces : PerBus (Option Pace)}
    {buffers : List (List UInt8)} {sensors : List (Config × Nat)} {actions : List Action}
    {sensor : Sensor}
    (owns : ∀ place, (sensors.map Prod.snd)[place]? = some ring ↔ place = index)
    (there : ring < sensors.length)
    (follows
      : Follows (Tends index ring handle) (assemble capacity paces buffers sensors) actions)
    (here
      : ((assemble capacity paces buffers sensors).run actions).2.sensors[index]? = some sensor)
    (held : sensor.handle.load = some handle)
    : (assemble capacity paces buffers sensors).Fills ring handle slot actions
      ↔ slot.val
        < ((assemble capacity paces buffers sensors).collect ring handle .empty
            actions).handled.length := by
  have empty : (assemble capacity paces buffers sensors).Gathers index ring handle .empty :=
    gathers_assemble owns there
  obtain ⟨left, tracks, same, -⟩ :=
    follows.tracks (fun _ _ tends => tends.keeps) (tracks_assemble capacity paces buffers sensors)
  have fed := tracks.fedBy (rings_of_slaves same ▸ empty.owns) here held
  refine (empty.fills_iff follows fed).trans ⟨?_, fun low => ⟨slot.val, ?_, low, ?_⟩⟩
  · rintro ⟨number, -, high, parity⟩
    exact Nat.lt_of_le_of_lt (parity ▸ Nat.mod_le number 2) high
  · exact Nat.zero_le slot.val
  · exact (Nat.mod_eq_of_lt slot.isLt).symm

-----------------------------------------------------------------------------------------
-- Every run
-----------------------------------------------------------------------------------------

/-- In every run in which a sensor has a ring of its own, its slave is given streams by data-ready
edges only and each capture is finished with all its bytes, a slot of the ring was filled if its
number is below the number of captures that were completed. So decoding counts no other slot once
two captures were completed, or one while the bus is busy. Before that it counts slots that were
never filled: they add nothing to the sums but are among the slots that the sums are divided by, so
the first capture alone is halved while the bus is idle. An enabled sensor always has a result, even
before the first capture, and it becomes the reading that is kept.
-/
theorem decode_counts_fresh_slots {capacity : Fin 255} {paces : PerBus (Option Pace)}
    {buffers : List (List UInt8)} {sensors : List (Config × Nat)} {actions : List Action}
    {index ring : Nat} {handle : Handle}
    (owns : ∀ place, (sensors.map Prod.snd)[place]? = some ring ↔ place = index)
    (there : ring < sensors.length)
    (follows
      : Follows (Tends index ring handle) (assemble capacity paces buffers sensors) actions)
    {sensor : Sensor}
    (here
      : ((assemble capacity paces buffers sensors).run actions).2.sensors[index]? = some sensor)
    (held : sensor.handle.load = some handle)
    : let start := assemble capacity paces buffers sensors
      let bench := (start.run actions).2
      let captures := (start.collect ring handle .empty actions).handled
      let busy := (bench.master.bus sensor.config.bus).isBusy
      let samples := bench.master.memory.ring sensor.ring
      let counted := Sensor.usedSlots samples.cursor busy
      let sums := Sensor.sums samples (counted.filter (·.val < captures.length))
      captures.length = ((start.run actions).1.filterMap Answer.told?).count handle
      ∧ (∀ slot, start.Fills ring handle slot actions ↔ slot.val < captures.length)
      ∧ ((∀ slot ∈ counted, start.Fills ring handle slot actions)
        ↔ 2 ≤ captures.length ∨ (captures.length = 1 ∧ busy = true))
      ∧ (∀ only, captures = [only] → sums = SampleRing.captured only)
      ∧ ∀ temperature now,
          let raw :=
            Sensor.rawField sensor.config sensor.calibration.mounting sums counted.length
          let reading := ⟨raw, sensor.calibration.correct raw temperature, now⟩
          sensor.decode bench.master temperature now
          = if sensor.state = .enabled then
              (some reading, { sensor with reading := some reading })
            else (none, sensor) := by
  intro start bench captures busy samples counted sums
  have empty : start.Gathers index ring handle .empty := gathers_assemble owns there
  obtain ⟨left, tracks, same, -⟩ :=
    follows.tracks (fun _ _ tends => tends.keeps) (tracks_assemble capacity paces buffers sensors)
  have fed := tracks.fedBy (rings_of_slaves same ▸ empty.owns) here held
  obtain ⟨gathers, length⟩ := empty.run follows fed
  have own : sensor.ring = ring := by
    have known := (gathers.owns index).mpr rfl
    rw [List.getElem?_map, here] at known
    exact Option.some.inj known
  have fills (slot : Fin 2)
      : start.Fills ring handle slot actions ↔ slot.val < captures.length :=
    fills_assemble_iff owns there follows here held
  obtain ⟨trials, -, gathered⟩ := gathers.gathered
  refine ⟨length.trans (Nat.zero_add _), fills, ?_, ?_, ?_⟩
  · simp only [fills]
    refine filled_of_used_iff busy ?_
    simp only [samples, own]
    exact gathered.holds.cursor
  · intro only handled
    simp only [sums, counted, samples, own]
    exact gathered.holds.sums_only handled busy
  · intro temperature now raw reading
    have same : sums = Sensor.sums samples counted := by
      refine Sensor.sums_filter (fun slot member unfilled => ?_)
      simp only [counted, samples, own] at member ⊢
      exact gathers.sample_fresh here held member (by simpa using unfilled)
    simp only [reading, raw, same]
    exact sensor.decode_eq bench.master temperature now

/-- A sensor that counts whole gauss, with a ring of its own. -/
def wholeGauss : List (Config × Nat) :=
  [({ Config.factory with gaussPerCount := 1 }, 0)]

/-- The sensor is alone on the only bus that is there. -/
def oneSensor : Bench :=
  assemble SlaveTable.defaultCapacity ⟨some .instant, none, none⟩ [] wholeGauss

theorem owns_wholeGauss (place : Nat)
    : (wholeGauss.map Prod.snd)[place]? = some 0 ↔ place = 0 := by
  cases place <;> simp [wholeGauss]

/-- The sensor is brought up and makes one capture. -/
def firstCapture : List Action :=
  [.sensor 0 .register, .arrange .i2c1 (.fallback identityCode),
    .sensor 0 (.bringUp ⟨.replicate 32 0⟩ false none), .sensor 0 .enable,
    .sensor 0 .dataReady, .deliver .i2c1 [0, 100, 0, 0, 0, 0], .complete .i2c1 .rx]

theorem follows_firstCapture
    : Follows (Tends 0 0 ⟨0⟩) oneSensor firstCapture := by
  refine ⟨?_, ?_, ?_, ?_, .of_whole True.intro (by simp) (by simp) (by simp), ?_, ?_,
    True.intro⟩ <;>
    refine .of_whole True.intro (by simp) (fun _ => ?_) (by simp [SampleRing.captureLength]) <;>
    decide +kernel

/-- After the first capture the bus is idle, and the sensor averages it with a slot that reads zero.
-/
theorem decode_counts_fresh_slots_after_first
    : let bench := (oneSensor.run firstCapture).2
      ∃ sensor,
        bench.sensors[0]? = some sensor
        ∧ ∀ temperature now,
            let raw :=
              Sensor.rawField sensor.config sensor.calibration.mounting ⟨100, 0, 0⟩ 2
            (sensor.decode bench.master temperature now).1
            = some ⟨raw, sensor.calibration.correct raw temperature, now⟩ := by
  intro bench
  have shown
      : (bench.sensors[0]?).map
          (fun sensor => (sensor.handle.load, sensor.state, sensor.config.bus, sensor.ring))
        = some (some ⟨0⟩, .enabled, .i2c1, 0) := by
    decide +kernel
  obtain ⟨sensor, here, facts⟩ := Option.map_eq_some_iff.mp shown
  simp only [Prod.mk.injEq] at facts
  obtain ⟨held, enabled, home, -⟩ := facts
  have idle : ((oneSensor.run firstCapture).2.master.bus sensor.config.bus).isBusy = false := by
    rw [home]
    decide +kernel
  have captures
      : (oneSensor.collect 0 ⟨0⟩ .empty firstCapture).handled = [[0, 100, 0, 0, 0, 0]] := by
    decide +kernel
  have numbers : SampleRing.captured [0, 100, 0, 0, 0, 0] = ⟨100, 0, 0⟩ := by
    decide +kernel
  obtain ⟨-, -, -, only, decodes⟩ :=
    decode_counts_fresh_slots owns_wholeGauss (by decide) follows_firstCapture here held
  refine ⟨sensor, here, fun temperature now => ?_⟩
  have decoded := congrArg Prod.fst (decodes temperature now)
  simp only [only _ captures, numbers, enabled, if_true] at decoded
  rw [← oneSensor, idle, Sensor.usedSlots_idle] at decoded
  exact decoded

/-- The bus is idle and the first capture reads a hundred gauss, but fifty are decoded: the second
slot is counted and was never filled. Before that capture zeros were decoded.
-/
theorem first_capture_halved
    : let decoded (bench : Bench) :=
        (bench.sensors[0]?).bind fun sensor =>
          ((sensor.decode bench.master 0 0).1).map fun reading => reading.raw.x
      let bench := (oneSensor.run firstCapture).2
      (bench.master.bus .i2c1).isBusy = false
      ∧ (oneSensor.collect 0 ⟨0⟩ .empty firstCapture).handled = [[0, 100, 0, 0, 0, 0]]
      ∧ 1 ∈ Sensor.usedSlots (bench.master.memory.ring 0).cursor false
      ∧ ¬ oneSensor.Fills 0 ⟨0⟩ 1 firstCapture
      ∧ decoded bench = some 50
      ∧ decoded (oneSensor.run (firstCapture.take 4)).2 = some 0 := by
  intro decoded bench
  have captures
      : (oneSensor.collect 0 ⟨0⟩ .empty firstCapture).handled = [[0, 100, 0, 0, 0, 0]] := by
    decide +kernel
  refine ⟨by decide +kernel, captures, by decide +kernel, ?_, by decide +kernel,
    by decide +kernel⟩
  have shown : (bench.sensors[0]?).map (fun sensor => sensor.handle.load) = some (some ⟨0⟩) := by
    decide +kernel
  obtain ⟨sensor, here, held⟩ := Option.map_eq_some_iff.mp shown
  intro filled
  have low : (1 : Fin 2).val < (oneSensor.collect 0 ⟨0⟩ .empty firstCapture).handled.length :=
    (fills_assemble_iff owns_wholeGauss (by decide) follows_firstCapture here held).mp filled
  rw [captures] at low
  exact absurd low (by decide)

end Bench

end TwoWire
