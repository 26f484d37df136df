/-! Bytes written as two lower-case hexadecimal digits. -/

namespace TwoWire.Hex

/-- The digit of a value below sixteen, lower case from ten on. -/
def digit (value : Nat) : Char :=
  if value < 10 then Char.ofNat ('0'.toNat + value) else Char.ofNat ('a'.toNat + value - 10)

/-- Both digits of a byte, the more significant one first, so every byte takes two places. -/
def byte (value : UInt8) : String :=
  String.ofList [digit (value.toNat / 16), digit (value.toNat % 16)]

def bytes (values : List UInt8) : String :=
  String.join (values.map byte)

end TwoWire.Hex
