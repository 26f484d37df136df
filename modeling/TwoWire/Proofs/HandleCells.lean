import TwoWire.Proofs.Registration

/-! A cell of one byte does what a variable that holds a handle or nothing would do.

The byte that stands for nothing is one that a handle could have, so this rests on the number of
places in a slave table: handles are places, and there are too few of them to reach that byte. A bus
that was given away is therefore kept from all others until it is given back.
-/

namespace TwoWire

-----------------------------------------------------------------------------------------
-- Handles that tables issue
-----------------------------------------------------------------------------------------

namespace SlaveTable

/-- Register slaves one after the other; those that are refused leave the table as it is. -/
def insertAll : SlaveTable → List Slave → SlaveTable
  | table, [] => table
  | table, slave :: rest =>
    match table.insert slave with
    | .ok (_, next) => next.insertAll rest
    | .error _ => table.insertAll rest

/-- A table with this number of places can answer a registration with the handle. -/
def Issues (capacity : Fin 255) (handle : Handle) : Prop :=
  ∃ earlier slave next,
    ((empty capacity).insertAll earlier).insert slave = .ok (handle, next)

/-- Registrations keep to the places that there are, by induction over them. -/
theorem fits_insertAll {table : SlaveTable} (fits : table.Fits) (slaves : List Slave)
    : (table.insertAll slaves).Fits ∧ (table.insertAll slaves).capacity = table.capacity := by
  induction slaves generalizing table with
  | nil => exact ⟨fits, rfl⟩
  | cons slave rest ih =>
      unfold insertAll
      split
      · rename_i accepted
        obtain ⟨later, same⟩ := ih (fits.insert accepted)
        obtain ⟨-, rfl⟩ := eq_append_of_insert accepted
        exact ⟨later, same⟩
      · exact ih fits

/-- The slave with which a table of numbered slaves goes on. -/
def numbered (number : Nat) : Slave :=
  ⟨.i2c1, number.toUInt8, .none⟩

/-- The numbered slaves are different from each other as long as their numbers fit in a byte. -/
theorem insert_numbered {capacity : Fin 255} {count : Nat} (room : count < capacity)
    : insert ⟨capacity, (List.range count).map numbered⟩ (numbered count)
      = .ok (.ofIndex count, ⟨capacity, (List.range (count + 1)).map numbered⟩) := by
  have unknown
      : ¬ contains ⟨capacity, (List.range count).map numbered⟩ (numbered count).bus
          (numbered count).address = true := by
    rw [contains_iff]
    rintro ⟨slave, member, -, same⟩
    obtain ⟨number, before, rfl⟩ := List.mem_map.mp member
    have before := List.mem_range.mp before
    have equal : (Handle.ofIndex number).index = (Handle.ofIndex count).index :=
      congrArg UInt8.toNat same
    rw [Handle.index_ofIndex room, Handle.index_ofIndex (Nat.lt_trans before room)] at equal
    exact Nat.ne_of_lt before equal
  have size : SlaveTable.size ⟨capacity, (List.range count).map numbered⟩ = count := by
    simp [SlaveTable.size]
  simp [insert, unknown, size, Nat.ne_of_lt room, List.range_succ]

theorem insertAll_append (table : SlaveTable) (first second : List Slave)
    : table.insertAll (first ++ second) = (table.insertAll first).insertAll second := by
  induction first generalizing table with
  | nil => rfl
  | cons slave rest ih =>
      simp only [List.cons_append, insertAll]
      split <;> exact ih _

/-- A table takes numbered slaves until it is full, by induction over them. -/
theorem insertAll_numbered {capacity : Fin 255} {count : Nat} (room : count ≤ capacity)
    : (empty capacity).insertAll ((List.range count).map numbered)
      = ⟨capacity, (List.range count).map numbered⟩ := by
  induction count with
  | zero => rfl
  | succ count ih =>
      rw [List.range_succ, List.map_append, insertAll_append, ih (Nat.le_of_succ_le room)]
      simp [insertAll, insert_numbered room, List.range_succ]

/-- The handles that a table issues are its places: none is lost in the byte, and none is left
out.
-/
theorem issues_iff {capacity : Fin 255} {handle : Handle}
    : Issues capacity handle ↔ handle.index < capacity := by
  constructor
  · rintro ⟨earlier, slave, next, accepted⟩
    have none : (empty capacity).Fits := Nat.zero_le _
    obtain ⟨fits, same⟩ := fits_insertAll none earlier
    have room : ((empty capacity).insertAll earlier).size < capacity := by
      have full := size_ne_capacity_of_insert accepted
      rw [Fits, same] at fits
      rw [same] at full
      exact Nat.lt_of_le_of_ne fits full
    obtain ⟨rfl, -⟩ := eq_append_of_insert accepted
    rw [Handle.index_ofIndex room]
    exact room
  · intro inside
    have found : Handle.ofIndex handle.index = handle := by
      simp [Handle.ofIndex, Handle.index]
    have accepted := insert_numbered inside
    rw [found, ← insertAll_numbered (Nat.le_of_lt inside)] at accepted
    exact ⟨_, _, _, accepted⟩

/-- No table issues the handle whose byte stands for nothing. -/
theorem Issues.code_ne_vacant {capacity : Fin 255} {handle : Handle}
    (issued : Issues capacity handle)
    : handle.code ≠ HandleCell.vacant := by
  intro same
  have inside := issues_iff.mp issued
  have bound := capacity.isLt
  have last : handle.index = 255 := congrArg UInt8.toNat same
  omega

end SlaveTable

-----------------------------------------------------------------------------------------
-- Uses of a cell
-----------------------------------------------------------------------------------------

namespace HandleCell

/-- What can be done with something that holds a handle or nothing. -/
inductive Use where
  | store (content : Option Handle)
  | take
  | trySet (handle : Handle)
  | load
  | isSome

/-- What a use answers. -/
inductive Report where
  | done
  | content (held : Option Handle)
  | truth (value : Bool)
deriving DecidableEq

namespace Use

/-- The handles that a use brings along. -/
def handles : Use → List Handle
  | store content => content.toList
  | trySet handle => [handle]
  | take | load | isSome => []

def onCell (cell : HandleCell) : Use → Report × HandleCell
  | store content => (.done, .store content)
  | take => cell.take.map .content id
  | trySet handle => (cell.trySet handle).map .truth id
  | load => (.content cell.load, cell)
  | isSome => (.truth cell.isSome, cell)

/-- What a use means for a variable. It is set only if it holds nothing. -/
def onVariable (held : Option Handle) : Use → Report × Option Handle
  | store content => (.done, content)
  | take => (.content held, none)
  | trySet handle => (.truth held.isNone, held.or (some handle))
  | load => (.content held, held)
  | isSome => (.truth held.isSome, held)

/-- Uses one after the other, with what each of them answers. -/
def run {α : Type} (act : α → Use → Report × α) (content : α) : List Use → List Report × α
  | [] => ([], content)
  | use :: rest =>
    let (report, next) := act content use
    (run act next rest).map (report :: ·) id

variable {cell : HandleCell} {held : Option Handle}

/-- A use does the same to a cell as to a variable, by cases on the use and on what is held. -/
theorem onCell_eq (same : cell.load = held) (use : Use)
    (proper : ∀ handle ∈ use.handles, handle.code ≠ vacant)
    : (use.onCell cell).1 = (use.onVariable held).1
      ∧ (use.onCell cell).2.load = (use.onVariable held).2 := by
  subst same
  cases use with
  | store content =>
      cases content with
      | none => exact ⟨rfl, rfl⟩
      | some handle => exact ⟨rfl, load_store_some (proper handle List.mem_cons_self)⟩
  | take => exact ⟨rfl, rfl⟩
  | trySet handle =>
      simp only [onCell, onVariable]
      cases held : cell.load with
      | none =>
          rw [trySet_of_load_eq_none held]
          exact ⟨rfl, load_store_some (proper handle List.mem_cons_self)⟩
      | some owner =>
          rw [trySet_of_load_eq_some held]
          exact ⟨rfl, held⟩
  | load => exact ⟨rfl, rfl⟩
  | isSome => exact ⟨congrArg Report.truth cell.isSome_eq, rfl⟩

/-- Uses do the same to a cell as to a variable, by induction over them. -/
theorem run_onCell (same : cell.load = held) (uses : List Use)
    (proper : ∀ use ∈ uses, ∀ handle ∈ use.handles, handle.code ≠ vacant)
    : (run onCell cell uses).1 = (run onVariable held uses).1
      ∧ (run onCell cell uses).2.load = (run onVariable held uses).2 := by
  induction uses generalizing cell held with
  | nil => exact ⟨rfl, same⟩
  | cons use rest ih =>
      obtain ⟨report, later⟩ := onCell_eq same use (proper use List.mem_cons_self)
      obtain ⟨reports, last⟩ :=
        ih later (fun other member => proper other (List.mem_cons_of_mem _ member))
      exact ⟨congr (congrArg List.cons report) reports, last⟩

end Use

end HandleCell

-----------------------------------------------------------------------------------------
-- Claims of a bus
-----------------------------------------------------------------------------------------

namespace Bus

variable {bus next : Bus} {transaction : Transaction}

/-- Claim a bus for several transactions one after the other, and tell for each of them whether it
was given the bus. A busy bus stays as it is.
-/
def claims : Bus → List Transaction → List Bool × Bus
  | bus, [] => ([], bus)
  | bus, transaction :: rest =>
    match bus.claim transaction with
    | some next => (next.claims rest).map (true :: ·) id
    | none => (bus.claims rest).map (false :: ·) id

/-- A bus can be claimed exactly while it is idle, by the test on its cell. -/
theorem claim_isSome_iff
    : (bus.claim transaction).isSome = true ↔ bus.owner = none := by
  cases held : bus.active.load with
  | none => simp [claim, owner, held, HandleCell.trySet_of_load_eq_none held]
  | some other => simp [claim, owner, held, HandleCell.trySet_of_load_eq_some held]

/-- A claim that succeeds makes the slave of its transaction the owner. -/
theorem owner_of_claim (claimed : bus.claim transaction = some next)
    (proper : transaction.handle.code ≠ HandleCell.vacant)
    : next.owner = some transaction.handle := by
  obtain ⟨-, rfl⟩ := eq_of_claim claimed
  exact HandleCell.load_store_some proper

/-- No claim of a bus that has an owner succeeds, by induction over the claims. -/
theorem claims_of_owned {handle : Handle} (owned : bus.owner = some handle)
    (attempts : List Transaction)
    : bus.claims attempts = (List.replicate attempts.length false, bus) := by
  induction attempts with
  | nil => rfl
  | cons transaction rest ih =>
      have refused : bus.claim transaction = none := by
        rw [← Option.not_isSome_iff_eq_none, claim_isSome_iff, owned]
        exact Option.some_ne_none handle
      rw [claims, refused, ih]
      rfl

end Bus

/-- Used in any way with handles that a table can issue, a cell answers what a variable would that
holds a handle or nothing, and holds the same in the end. So a bus is given away only while it is
idle, and from then on until it is given back it belongs to the slave to which it was given,
whoever else tries to claim it.
-/
theorem HandleCell.refines_variable (capacity : Fin 255) (uses : List HandleCell.Use)
    (issued
      : ∀ use ∈ uses, ∀ handle ∈ use.handles, SlaveTable.Issues capacity handle)
    : let (reports, cell) := HandleCell.Use.run HandleCell.Use.onCell .empty uses
      let (expected, held) := HandleCell.Use.run HandleCell.Use.onVariable none uses
      reports = expected
      ∧ cell.load = held
      ∧ cell.isSome = held.isSome
      ∧ ∀ (bus : Bus) (transaction : Transaction),
          SlaveTable.Issues capacity transaction.handle
          → ((bus.claim transaction).isSome = true ↔ bus.owner = none)
            ∧ ∀ next, bus.claim transaction = some next
              → (∀ attempts : List Transaction,
                  next.claims attempts = (List.replicate attempts.length false, next))
                ∧ next.owner = some transaction.handle
                ∧ next.isBusy = true
                ∧ next.release.1 = some transaction.handle
                ∧ next.release.2.owner = none := by
  have proper (use : Use) (member : use ∈ uses) (handle : Handle) (among : handle ∈ use.handles)
      : handle.code ≠ vacant :=
    (issued use member handle among).code_ne_vacant
  obtain ⟨reports, held⟩ := Use.run_onCell load_empty uses proper
  refine ⟨reports, held, ?_, ?_⟩
  · rw [isSome_eq, held]
  · intro bus transaction known
    refine ⟨Bus.claim_isSome_iff, fun next claimed => ?_⟩
    have owned := Bus.owner_of_claim claimed known.code_ne_vacant
    refine ⟨Bus.claims_of_owned owned, owned, ?_, owned, rfl⟩
    rw [Bus.isBusy_eq, owned]
    rfl

/-- The largest table issues a handle in its last place, which is next to the byte that stands for
nothing. A cell keeps it, and a bus that its slave was given is not given away.
-/
theorem HandleCell.refines_variable_in_last_place
    : let uses : List HandleCell.Use :=
        [.trySet ⟨253⟩, .trySet ⟨0⟩, .load, .take, .isSome, .store (some ⟨253⟩), .take]
      (∀ use ∈ uses, ∀ handle ∈ use.handles, SlaveTable.Issues 254 handle)
      ∧ (HandleCell.Use.run HandleCell.Use.onCell .empty uses).1
        = [.truth true, .truth false, .content (some ⟨253⟩), .content (some ⟨253⟩), .truth false,
            .done, .content (some ⟨253⟩)]
      ∧ (HandleCell.Use.run HandleCell.Use.onVariable none uses).1
        = (HandleCell.Use.run HandleCell.Use.onCell .empty uses).1
      ∧ ∃ next, (Bus.new none).claim (.probe ⟨253⟩) = some next
        ∧ next.claims [.probe ⟨0⟩, .probe ⟨253⟩] = ([false, false], next)
        ∧ next.release.1 = some ⟨253⟩ := by
  intro uses
  have places : ∀ use ∈ uses, ∀ handle ∈ use.handles, handle.index < 254 := by decide
  have issued : ∀ use ∈ uses, ∀ handle ∈ use.handles, SlaveTable.Issues 254 handle :=
    fun use member handle among =>
      SlaveTable.issues_iff.mpr (places use member handle among)
  have last : SlaveTable.Issues 254 ⟨253⟩ := SlaveTable.issues_iff.mpr (by decide)
  obtain ⟨reports, -, -, claims⟩ := refines_variable 254 uses issued
  obtain ⟨turned, -, -, released, -⟩ := (claims (.new none) (.probe ⟨253⟩) last).2 _ rfl
  exact ⟨issued, by decide, reports.symm, _, rfl, turned _, released⟩

/-- A handle past the last place of the largest table would be lost. -/
example : (HandleCell.store (some ⟨255⟩)).load = none := rfl

end TwoWire
