/-! The outcome of running something that may have to wait. -/

namespace TwoWire

/-- Either the work is done, or it waits and can be resumed from what is left of it. -/
inductive Poll (ρ α : Type) where
  | ready (result : α)
  | pending (rest : ρ)
deriving DecidableEq, Repr

end TwoWire
