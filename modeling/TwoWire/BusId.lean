import TwoWire.MasterError

/-! The three buses a master can drive, and values kept once for each of them. -/

namespace TwoWire

/-- One of the buses a master drives. -/
inductive BusId where
  | i2c1
  | i2c2
  | i2c3
deriving DecidableEq, Repr

namespace BusId

def all : List BusId := [i2c1, i2c2, i2c3]

/-- The number of a bus, counted from zero. -/
def index : BusId → Nat
  | i2c1 => 0
  | i2c2 => 1
  | i2c3 => 2

/-- The bus with a given number; a number past the last bus names no bus. -/
def ofCode (code : UInt8) : Except MasterError BusId :=
  match code with
  | 0 => .ok i2c1
  | 1 => .ok i2c2
  | 2 => .ok i2c3
  | _ => .error .unknownBus

def name : BusId → String
  | i2c1 => "I2c1"
  | i2c2 => "I2c2"
  | i2c3 => "I2c3"

/-- A bus is found again from its number, by cases. -/
theorem ofCode_index (bus : BusId)
    : ofCode bus.index.toUInt8 = .ok bus := by
  cases bus <;> rfl

theorem mem_all (bus : BusId)
    : bus ∈ all := by
  cases bus <;> decide

end BusId

structure PerBus (α : Type) where
  i2c1 : α
  i2c2 : α
  i2c3 : α
deriving DecidableEq

namespace PerBus

variable {α : Type}

def get (values : PerBus α) : BusId → α
  | .i2c1 => values.i2c1
  | .i2c2 => values.i2c2
  | .i2c3 => values.i2c3

/-- Replace the value kept for `bus` and leave the other two. -/
def set (values : PerBus α) (bus : BusId) (value : α) : PerBus α :=
  match bus with
  | .i2c1 => { values with i2c1 := value }
  | .i2c2 => { values with i2c2 := value }
  | .i2c3 => { values with i2c3 := value }

def ofFn (value : BusId → α) : PerBus α :=
  ⟨value .i2c1, value .i2c2, value .i2c3⟩

@[simp] theorem get_set_self (values : PerBus α) (bus : BusId) (value : α)
    : (values.set bus value).get bus = value := by
  cases bus <;> rfl

/-- Setting the value of one bus leaves every other bus alone, by cases on both. -/
@[simp] theorem get_set_of_ne {values : PerBus α} {bus other : BusId} {value : α}
    (distinct : other ≠ bus)
    : (values.set bus value).get other = values.get other := by
  cases bus <;> cases other <;> first | rfl | contradiction

@[simp] theorem get_ofFn (value : BusId → α) (bus : BusId)
    : (ofFn value).get bus = value bus := by
  cases bus <;> rfl

/-- Writing back what is there changes nothing, by cases on the bus. -/
@[simp] theorem set_get (values : PerBus α) (bus : BusId)
    : values.set bus (values.get bus) = values := by
  cases bus <;> rfl

/-- Of two values set one after the other for the same bus the second remains, by cases. -/
@[simp] theorem set_set (values : PerBus α) (bus : BusId) (first second : α)
    : (values.set bus first).set bus second = values.set bus second := by
  cases bus <;> rfl

/-- Two families that agree on every bus are equal, field by field. -/
theorem ext_get {left right : PerBus α} (agree : ∀ bus, left.get bus = right.get bus)
    : left = right := by
  cases left
  cases right
  have first := agree .i2c1
  have second := agree .i2c2
  have third := agree .i2c3
  simp_all [get]

end PerBus

end TwoWire
