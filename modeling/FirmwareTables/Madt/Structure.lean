import FirmwareTables.Bytes

set_option autoImplicit false

namespace FirmwareTables.Madt

structure IoApic where
  length : UInt8 := 12
  id : UInt8
  reserved : UInt8 := 0
  address : UInt32
  gsiBase : UInt32
  deriving DecidableEq

structure InterruptOverride where
  length : UInt8 := 10
  bus : UInt8 := 0
  source : UInt8
  gsi : UInt32
  flags : UInt16
  deriving DecidableEq

structure LocalX2Apic where
  length : UInt8 := 16
  reserved : UInt16 := 0
  id : UInt32
  flags : UInt32
  uid : UInt32
  deriving DecidableEq

structure LocalX2ApicNmi where
  length : UInt8 := 12
  flags : UInt16
  uid : UInt32
  lint : UInt8
  reserved : FixedBytes 3 := ⟨[0, 0, 0], rfl⟩
  deriving DecidableEq

inductive Structure where
  | ioApic (fields : IoApic)
  | interruptOverride (fields : InterruptOverride)
  | localX2Apic (fields : LocalX2Apic)
  | localX2ApicNmi (fields : LocalX2ApicNmi)
  | other (number length : UInt8)
  deriving DecidableEq

def ioApicType : UInt8 := 0x01

def interruptOverrideType : UInt8 := 0x02

def localX2ApicType : UInt8 := 0x09

def localX2ApicNmiType : UInt8 := 0x0A

-- A type that systems skip.
def reservedType : UInt8 := 0x7F

def localX2ApicSize : Nat := 16

def LocalX2Apic.ofEnabled (id uid : UInt32) (enabled : Bool) : LocalX2Apic :=
  { id, uid, flags := if enabled then 1 else 0 }

namespace Structure

def encode : Structure → Bytes
  | .ioApic s =>
    [ioApicType, s.length, s.id, s.reserved] ++ Bytes.word32 s.address ++ Bytes.word32 s.gsiBase
  | .interruptOverride s =>
    [interruptOverrideType, s.length, s.bus, s.source] ++ Bytes.word32 s.gsi ++
      Bytes.word16 s.flags
  | .localX2Apic s =>
    [localX2ApicType, s.length] ++ Bytes.word16 s.reserved ++ Bytes.word32 s.id ++
      Bytes.word32 s.flags ++ Bytes.word32 s.uid
  | .localX2ApicNmi s =>
    [localX2ApicNmiType, s.length] ++ Bytes.word16 s.flags ++ Bytes.word32 s.uid ++ [s.lint] ++
      s.reserved.bytes
  | .other number length => [number, length]

def readIoApic : Bytes → Option Structure
  | _ :: length :: id :: reserved :: a0 :: a1 :: a2 :: a3 :: g0 :: g1 :: g2 :: g3 :: _ =>
    some (.ioApic {
      length, id, reserved
      address := Bytes.toWord32 [a0, a1, a2, a3]
      gsiBase := Bytes.toWord32 [g0, g1, g2, g3] })
  | _ => none

def readInterruptOverride : Bytes → Option Structure
  | _ :: length :: bus :: source :: g0 :: g1 :: g2 :: g3 :: f0 :: f1 :: _ =>
    some (.interruptOverride {
      length, bus, source
      gsi := Bytes.toWord32 [g0, g1, g2, g3]
      flags := Bytes.toWord16 [f0, f1] })
  | _ => none

def readLocalX2Apic : Bytes → Option Structure
  | _ :: length :: r0 :: r1 :: i0 :: i1 :: i2 :: i3 :: f0 :: f1 :: f2 :: f3 ::
      u0 :: u1 :: u2 :: u3 :: _ =>
    some (.localX2Apic {
      length
      reserved := Bytes.toWord16 [r0, r1]
      id := Bytes.toWord32 [i0, i1, i2, i3]
      flags := Bytes.toWord32 [f0, f1, f2, f3]
      uid := Bytes.toWord32 [u0, u1, u2, u3] })
  | _ => none

def readLocalX2ApicNmi : Bytes → Option Structure
  | _ :: length :: f0 :: f1 :: u0 :: u1 :: u2 :: u3 :: lint :: r0 :: r1 :: r2 :: _ =>
    some (.localX2ApicNmi {
      length, lint
      flags := Bytes.toWord16 [f0, f1]
      uid := Bytes.toWord32 [u0, u1, u2, u3]
      reserved := ⟨[r0, r1, r2], rfl⟩ })
  | _ => none

def read : Bytes → Option Structure
  | number :: length :: rest =>
    if number = ioApicType then readIoApic (number :: length :: rest)
    else if number = interruptOverrideType then readInterruptOverride (number :: length :: rest)
    else if number = localX2ApicType then readLocalX2Apic (number :: length :: rest)
    else if number = localX2ApicNmiType then readLocalX2ApicNmi (number :: length :: rest)
    else some (.other number length)
  | _ => none

end Structure

end FirmwareTables.Madt
