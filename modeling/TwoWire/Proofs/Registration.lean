import TwoWire.Proofs.Footprints
import TwoWire.Proofs.Ownership

/-! Registering one slave: why it is refused, what its place is, and which tables registrations lead
to.
-/

namespace TwoWire

-----------------------------------------------------------------------------------------
-- One registration
-----------------------------------------------------------------------------------------

theorem SlaveTable.contains_iff {table : SlaveTable} {bus : BusId} {address : UInt8}
    : table.contains bus address = true
      ↔ ∃ slave ∈ table.entries, slave.bus = bus ∧ slave.address = address := by
  simp [contains]

/-- A handle stands for no slave exactly if its place is not taken yet. -/
theorem SlaveTable.get?_eq_none_iff {table : SlaveTable} {handle : Handle}
    : table.get? handle = none ↔ table.size ≤ handle.index :=
  List.getElem?_eq_none_iff

/-- The handle of a place that a table can have leads back to the place. -/
theorem Handle.index_ofIndex {place : Nat} {capacity : Fin 255} (inside : place < capacity)
    : (ofIndex place).index = place := by
  have bound := capacity.isLt
  exact UInt8.toNat_ofNat_of_lt (show place < 256 by omega)

namespace Master

/-- Why a slave is refused. Each cause is given only if none of those before it applies. -/
inductive Refuses (master : Master) (slave : Slave) : MasterError → Prop
  | address (high : 0x7F < slave.address) : Refuses master slave (.invalidAddress slave.address)
  | bus (low : slave.address ≤ 0x7F) (absent : master.peripheral? slave.bus = none)
    : Refuses master slave .unknownBus
  /-- The same address on the same bus is refused whether or not the table is full. -/
  | taken {other} (low : slave.address ≤ 0x7F)
    (present : (master.peripheral? slave.bus).isSome = true)
    (member : other ∈ master.slaves.entries) (sameBus : other.bus = slave.bus)
    (sameAddress : other.address = slave.address)
    : Refuses master slave .alreadyRegistered
  | full (low : slave.address ≤ 0x7F) (present : (master.peripheral? slave.bus).isSome = true)
    (new
      : ∀ other ∈ master.slaves.entries, other.bus = slave.bus → other.address ≠ slave.address)
    (filled : master.slaves.size = master.slaves.capacity)
    : Refuses master slave .tableFull

/-- Nothing speaks against a slave. -/
structure Admits (master : Master) (slave : Slave) : Prop where
  low : slave.address ≤ 0x7F
  present : (master.peripheral? slave.bus).isSome = true
  new
    : ∀ other ∈ master.slaves.entries, other.bus = slave.bus → other.address ≠ slave.address
  room : master.slaves.size ≠ master.slaves.capacity

variable {master next : Master} {slave : Slave} {handle : Handle} {cause other : MasterError}

/-- A slave is admitted unless there is a cause to refuse it, by going through the causes. -/
theorem admits_or_refuses (master : Master) (slave : Slave)
    : master.Admits slave ∨ ∃ cause, master.Refuses slave cause := by
  by_cases high : 0x7F < slave.address
  · exact .inr ⟨_, .address high⟩
  have low : slave.address ≤ 0x7F := UInt8.not_lt.mp high
  cases here : master.peripheral? slave.bus with
  | none => exact .inr ⟨_, .bus low here⟩
  | some peripheral =>
      have present : (master.peripheral? slave.bus).isSome = true := by simp [here]
      by_cases known
          : ∃ other ∈ master.slaves.entries,
              other.bus = slave.bus ∧ other.address = slave.address
      · obtain ⟨_, member, sameBus, sameAddress⟩ := known
        exact .inr ⟨_, .taken low present member sameBus sameAddress⟩
      have new
          : ∀ other ∈ master.slaves.entries,
              other.bus = slave.bus → other.address ≠ slave.address :=
        fun other member sameBus sameAddress => known ⟨other, member, sameBus, sameAddress⟩
      by_cases filled : master.slaves.size = master.slaves.capacity
      · exact .inr ⟨_, .full low present new filled⟩
      · exact .inl ⟨low, present, new, filled⟩

/-- Bringing up the bus of a slave leaves slaves and peripherals alone. -/
theorem steady_configureOnce (master : Master) (id : BusId)
    : master.Steady (master.setBus id (master.bus id).configureOnce) :=
  steady_setBus (peripheral_configureOnce _)

/-- A slave that is refused is told the cause, and the table stays as it is. -/
theorem Refuses.register (refuses : master.Refuses slave cause)
    : (master.register slave).1 = .error cause
      ∧ master.Steady (master.register slave).2 := by
  unfold Master.register
  cases refuses with
  | address high =>
      simp only [high, if_true]
      exact ⟨True.intro, .refl master⟩
  | bus low absent =>
      simp only [UInt8.not_lt.mpr low, absent, Option.isNone_none, if_true, if_false]
      exact ⟨True.intro, .refl master⟩
  | taken low present member sameBus sameAddress =>
      have known : master.slaves.contains slave.bus slave.address = true :=
        SlaveTable.contains_iff.mpr ⟨_, member, sameBus, sameAddress⟩
      simp only [UInt8.not_lt.mpr low, Option.isNone_eq_false_iff.mpr present,
        SlaveTable.insert, known, if_true, if_false]
      exact ⟨rfl, master.steady_configureOnce slave.bus⟩
  | full low present new filled =>
      have unknown : ¬ master.slaves.contains slave.bus slave.address = true := by
        rw [SlaveTable.contains_iff]
        rintro ⟨other, member, sameBus, sameAddress⟩
        exact new other member sameBus sameAddress
      simp only [UInt8.not_lt.mpr low, Option.isNone_eq_false_iff.mpr present,
        SlaveTable.insert, unknown, filled, if_true, if_false]
      exact ⟨rfl, master.steady_configureOnce slave.bus⟩

/-- A slave that is admitted is appended, and the answer is its place. -/
theorem Admits.register (admits : master.Admits slave)
    : (master.register slave).1 = .ok (.ofIndex master.slaves.size)
      ∧ (master.register slave).2.slaves
        = { master.slaves with entries := master.slaves.entries ++ [slave] }
      ∧ ∀ id,
          ((master.register slave).2.peripheral? id).isSome = (master.peripheral? id).isSome := by
  have unknown : ¬ master.slaves.contains slave.bus slave.address = true := by
    rw [SlaveTable.contains_iff]
    rintro ⟨other, member, sameBus, sameAddress⟩
    exact admits.new other member sameBus sameAddress
  unfold Master.register
  simp only [UInt8.not_lt.mpr admits.low, Option.isNone_eq_false_iff.mpr admits.present,
    SlaveTable.insert, unknown, admits.room, if_false]
  exact ⟨rfl, rfl, (master.steady_configureOnce slave.bus).present⟩

/-- The cause that is told is the cause there is. -/
theorem register_eq_error_iff
    : (master.register slave).1 = .error cause ↔ master.Refuses slave cause := by
  constructor
  · intro refused
    rcases master.admits_or_refuses slave with admits | ⟨other, refuses⟩
    · simp [admits.register.1] at refused
    · obtain rfl := Except.error.inj (refuses.register.1.symm.trans refused)
      exact refuses
  · exact fun refuses => refuses.register.1

theorem register_eq_ok_iff
    : (∃ handle, (master.register slave).1 = .ok handle) ↔ master.Admits slave := by
  constructor
  · rintro ⟨handle, accepted⟩
    rcases master.admits_or_refuses slave with admits | ⟨cause, refuses⟩
    · exact admits
    · simp [refuses.register.1] at accepted
  · exact fun admits => ⟨_, admits.register.1⟩

-----------------------------------------------------------------------------------------
-- Tables that registrations lead to
-----------------------------------------------------------------------------------------

/-- The slaves of the table fit in it, no two share an address on a bus, and each has a valid
address on a bus that is there.
-/
structure Lawful (master : Master) : Prop where
  fits : master.slaves.Fits
  distinct
    : master.slaves.entries.Pairwise fun first second =>
        first.bus = second.bus → first.address ≠ second.address
  valid
    : ∀ slave ∈ master.slaves.entries,
        slave.address ≤ 0x7F ∧ (master.peripheral? slave.bus).isSome = true

theorem Lawful.steady (lawful : master.Lawful) (steady : master.Steady next)
    : next.Lawful := by
  obtain ⟨slaves, present⟩ := steady
  constructor
  · exact slaves ▸ lawful.fits
  · exact slaves ▸ lawful.distinct
  · intro slave member
    rw [slaves] at member
    rw [present]
    exact lawful.valid slave member

/-- Registering keeps the table lawful, since what would break it is refused. -/
theorem Lawful.register (lawful : master.Lawful) (slave : Slave)
    : (master.register slave).2.Lawful := by
  rcases master.admits_or_refuses slave with admits | ⟨cause, refuses⟩
  · obtain ⟨-, slaves, present⟩ := admits.register
    have room : master.slaves.size < master.slaves.capacity :=
      Nat.lt_of_le_of_ne lawful.fits admits.room
    constructor
    · rw [slaves]
      simpa [SlaveTable.Fits, SlaveTable.size] using Nat.succ_le_of_lt room
    · rw [slaves]
      refine List.pairwise_append.mpr ⟨lawful.distinct, List.pairwise_singleton _ _, ?_⟩
      intro first member last same sameBus
      obtain rfl := List.mem_singleton.mp same
      exact admits.new first member sameBus
    · intro known member
      rw [slaves] at member
      rw [present]
      rcases List.mem_append.mp member with old | new
      · exact lawful.valid known old
      · obtain rfl := List.mem_singleton.mp new
        exact ⟨admits.low, admits.present⟩
  · exact lawful.steady refuses.register.2

/-- No slave gets the handle that stands for none. -/
theorem Lawful.code_ne_vacant (lawful : master.Lawful)
    (accepted : (master.register slave).1 = .ok handle)
    : handle.code ≠ HandleCell.vacant := by
  have admits := register_eq_ok_iff.mp ⟨handle, accepted⟩
  have room : master.slaves.size < master.slaves.capacity :=
    Nat.lt_of_le_of_ne lawful.fits admits.room
  obtain rfl := Except.ok.inj (accepted.symm.trans admits.register.1)
  intro same
  have last : (Handle.ofIndex master.slaves.size).index = 255 := congrArg UInt8.toNat same
  rw [Handle.index_ofIndex room] at last
  have bound := master.slaves.capacity.isLt
  omega

/-- A registration never changes what a handle stands for. -/
theorem known_register {place : Handle} {known : Slave}
    (found : master.slaves.get? place = some known)
    : (master.register slave).2.slaves.get? place = some known := by
  rcases master.admits_or_refuses slave with admits | ⟨cause, refuses⟩
  · rw [admits.register.2.1]
    exact (List.getElem?_append_left (List.getElem?_eq_some_iff.mp found).1).trans found
  · rw [refuses.register.2.slaves]
    exact found

/-- A slave of a lawful table can always be looked up, since its bus is there. -/
theorem Lawful.resolve (lawful : master.Lawful) (handle : Handle)
    : (∃ slave, master.slaves.get? handle = some slave ∧ master.resolve handle = .ok slave)
      ∨ master.slaves.size ≤ handle.index ∧ master.resolve handle = .error .unknownSlave := by
  unfold Master.resolve
  cases found : master.slaves.get? handle with
  | none => exact .inr ⟨SlaveTable.get?_eq_none_iff.mp found, rfl⟩
  | some slave =>
      have present := (lawful.valid slave (List.mem_of_getElem? found)).2
      simp [Option.isNone_eq_false_iff.mpr present]

end Master

end TwoWire
