import TwoWire.Bus
import TwoWire.BusId

/-! The table of slaves, to which entries are only ever added.

A handle is the place of an entry, so it stands for the same slave as long as the table lives.
-/

namespace TwoWire

/-- What happens when a stream transfer of a slave completes. -/
inductive Reaction where
  | none
  | advanceRing (index : Nat)
  /-- A client is called under its tag. It may look at the buses and at the memory, and it may
  ask for any number of transfers at once.
  -/
  | call (tag : String) (requests : PerBus Bus → Memory → List Request)

/-- A client is told, and asks for at most one transfer, which is always the same. -/
def Reaction.tell (tag : String) (chained : Option Request) : Reaction :=
  .call tag fun _ _ => chained.toList

/-- A registered slave: where it lives and what its completions cause. -/
structure Slave where
  bus : BusId
  address : UInt8
  reaction : Reaction

/-- A slave as it is shown to a person, without what its completions cause. -/
def Slave.describe (slave : Slave) : String :=
  "SlaveDevice \x7b bus: " ++ slave.bus.name ++ ", address: " ++ toString slave.address.toNat
    ++ ", .. \x7d"

/-- A table of slaves with a fixed number of places. A handle is one byte of which one value
stands for no slave, so there are fewer than 255 places.
-/
structure SlaveTable where
  capacity : Fin 255
  entries : List Slave

namespace SlaveTable

def defaultCapacity : Fin 255 := 2

def empty (capacity : Fin 255) : SlaveTable := ⟨capacity, []⟩

def size (table : SlaveTable) : Nat :=
  table.entries.length

def isEmpty (table : SlaveTable) : Bool :=
  table.entries.isEmpty

def contains (table : SlaveTable) (bus : BusId) (address : UInt8) : Bool :=
  table.entries.any fun slave => slave.bus = bus ∧ slave.address = address

/-- Add an entry. The same address on the same bus is refused before a full table is, so a
second registration is told what is wrong with it even when there is no place left.
-/
def insert (table : SlaveTable) (slave : Slave) : Except MasterError (Handle × SlaveTable) :=
  if table.contains slave.bus slave.address then
    .error .alreadyRegistered
  else if table.size = table.capacity then
    .error .tableFull
  else
    .ok (.ofIndex table.size, { table with entries := table.entries ++ [slave] })

/-- The entry of a handle, if the table has one in its place. -/
def get? (table : SlaveTable) (handle : Handle) : Option Slave :=
  table.entries[handle.index]?

/-- A registration that succeeds appends its entry and answers its place, by cases on the
refusals.
-/
theorem eq_append_of_insert {table next : SlaveTable} {slave : Slave} {handle : Handle}
    (accepted : table.insert slave = .ok (handle, next))
    : handle = .ofIndex table.size
      ∧ next = { table with entries := table.entries ++ [slave] } := by
  simp only [insert] at accepted
  split at accepted
  · simp at accepted
  · split at accepted
    · simp at accepted
    · have both := Prod.mk.inj (Except.ok.inj accepted)
      exact ⟨both.1.symm, both.2.symm⟩

/-- A handle that stands for a slave goes on doing so, since entries are only appended. -/
theorem get?_of_insert {table next : SlaveTable} {slave known : Slave} {handle place : Handle}
    (accepted : table.insert slave = .ok (handle, next)) (found : table.get? place = some known)
    : next.get? place = some known := by
  obtain ⟨_, rfl⟩ := eq_append_of_insert accepted
  simp only [get?] at found ⊢
  obtain ⟨inside, _⟩ := List.getElem?_eq_some_iff.mp found
  rw [List.getElem?_append_left inside]
  exact found

end SlaveTable

end TwoWire
