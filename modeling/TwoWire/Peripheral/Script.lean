import TwoWire.Access

/-! What happens on the far side of a simulated bus: the bytes that slaves send and the addresses
that they refuse.
-/

namespace TwoWire

/-- The arrangements for what slaves answer. -/
structure Script where
  incoming : List UInt8
  fallback : UInt8
  /-- How many of the next addresses for sending are refused. -/
  refusals : Nat
  refuseAll : Bool
deriving DecidableEq, Repr

namespace Script

/-- How many bytes can be waiting to be sent; those that come later are dropped. -/
def incomingCapacity : Nat := 32

/-- Slaves that send zeros and refuse nothing. -/
def new : Script where
  incoming := []
  fallback := 0
  refusals := 0
  refuseAll := false

/-- Whether an address with this direction bit is refused; only addresses for sending are. -/
def refuses (script : Script) : Direction → Bool
  | .transmitter => script.refuseAll || decide (0 < script.refusals)
  | .receiver => false

/-- Answer an address: whether it is refused, and what is arranged for the next ones. A refusal
uses up one of the counted ones even while every address is refused.
-/
def address (script : Script) (direction : Direction) : Bool × Script :=
  if script.refuses direction then
    (true, { script with refusals := script.refusals - 1 })
  else
    (false, script)

/-- The byte that is sent now, and what is arranged for the next ones. -/
def nextByte (script : Script) : UInt8 × Script :=
  (script.incoming.head?.getD script.fallback, { script with incoming := script.incoming.tail })

end Script

inductive Arrangement where
  | enqueue (data : List UInt8)
  | fallback (value : UInt8)
  /-- How many of the next addresses for sending are refused. -/
  | refuseNext (count : Nat)
  | refuseAll (enable : Bool)
deriving DecidableEq, Repr

def Arrangement.apply (script : Script) : Arrangement → Script
  | enqueue data =>
    { script with incoming := (script.incoming ++ data).take Script.incomingCapacity }
  | fallback value => { script with fallback := value }
  | refuseNext count => { script with refusals := count }
  | refuseAll enable => { script with refuseAll := enable }

end TwoWire
