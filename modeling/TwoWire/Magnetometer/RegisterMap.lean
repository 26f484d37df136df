import TwoWire.Request

/-! The registers of the magnetometer and the flags of its two control registers. -/

namespace TwoWire.Magnetometer

/-- The address of the sensor as it is delivered. -/
def factoryAddress : UInt8 := 0x0E

/-- What the identity register of a genuine sensor holds. -/
def identityCode : UInt8 := 0xC4

/-- The registers that are known. -/
inductive Register where
  | drStatus
  /-- The first of six output bytes, three axes of two bytes, the more significant one first. -/
  | outXMsb
  | outXLsb
  | outYMsb
  | outYLsb
  | outZMsb
  | outZLsb
  | whoAmI
  | sysMod
  | dieTemp
  | ctrlReg1
  | ctrlReg2
deriving DecidableEq, Repr

namespace Register

def all : List Register :=
  [drStatus, outXMsb, outXLsb, outYMsb, outYLsb, outZMsb, outZLsb, whoAmI, sysMod, dieTemp,
    ctrlReg1, ctrlReg2]

/-- The number of a register as it is sent on the wire. -/
def number : Register → UInt16
  | drStatus => 0x00
  | outXMsb => 0x01
  | outXLsb => 0x02
  | outYMsb => 0x03
  | outYLsb => 0x04
  | outZMsb => 0x05
  | outZLsb => 0x06
  | whoAmI => 0x07
  | sysMod => 0x08
  | dieTemp => 0x0F
  | ctrlReg1 => 0x10
  | ctrlReg2 => 0x11

def name : Register → String
  | drStatus => "DrStatus"
  | outXMsb => "OutXMsb"
  | outXLsb => "OutXLsb"
  | outYMsb => "OutYMsb"
  | outYLsb => "OutYLsb"
  | outZMsb => "OutZMsb"
  | outZLsb => "OutZLsb"
  | whoAmI => "WhoAmI"
  | sysMod => "SysMod"
  | dieTemp => "DieTemp"
  | ctrlReg1 => "CtrlReg1"
  | ctrlReg2 => "CtrlReg2"

/-- A register as the start of a transfer; the sensor takes one address byte. -/
def address (register : Register) : RegisterAddress :=
  ⟨.bits8, register.number⟩

end Register

/-- The registers that control the sensor. -/
inductive ControlRegister where
  | first
  | second
deriving DecidableEq, Repr

namespace ControlRegister

/-- The flags of a control register with their bits, the most significant one first. -/
def flags : ControlRegister → List (String × UInt8)
  | first =>
    [("DR2", 0x80), ("DR1", 0x40), ("DR0", 0x20), ("OS1", 0x10), ("OS0", 0x08),
      ("FAST_READ", 0x04), ("TRIGGER", 0x02), ("ACTIVE", 0x01)]
  | second => [("AUTO_MRST_EN", 0x80), ("RAW", 0x20), ("MAG_RST", 0x10)]

/-- The bits that have a meaning. -/
def mask (register : ControlRegister) : UInt8 :=
  register.flags.foldl (fun bits flag => bits ||| flag.2) 0

/-- A value of which every set bit has a meaning, unchanged. -/
def ofBits? (register : ControlRegister) (bits : UInt8) : Option UInt8 :=
  if bits &&& ~~~register.mask = 0 then some bits else none

def truncate (register : ControlRegister) (bits : UInt8) : UInt8 :=
  bits &&& register.mask

/-- The bits with a meaning that are not set in a value. -/
def complement (register : ControlRegister) (bits : UInt8) : UInt8 :=
  ~~~bits &&& register.mask

def names (register : ControlRegister) (bits : UInt8) : List String :=
  (register.flags.filter fun flag => bits &&& flag.2 = flag.2).map (·.1)

def isAll (register : ControlRegister) (bits : UInt8) : Bool :=
  bits &&& register.mask = register.mask

end ControlRegister

/-- Continuous measurement; the rate bits stay clear, which gives the highest rate. -/
def activeMode : UInt8 := 0x01

/-- A magnetic reset before every measurement. -/
def automaticReset : UInt8 := 0x80

end TwoWire.Magnetometer
