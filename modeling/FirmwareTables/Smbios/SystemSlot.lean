import FirmwareTables.Smbios.StringSet

set_option autoImplicit false

namespace FirmwareTables.Smbios

inductive SlotType where
  | other
  | pciExpress
  | pciExpressGen2
  | pciExpressGen3
  | pciExpressGen4
  | pciExpressGen5
  deriving DecidableEq, Repr

def SlotType.code : SlotType → UInt8
  | .other => 0x01
  | .pciExpress => 0xA5
  | .pciExpressGen2 => 0xAB
  | .pciExpressGen3 => 0xB1
  | .pciExpressGen4 => 0xB8
  | .pciExpressGen5 => 0xBE

inductive SlotWidth where
  | unknown
  | x1
  | x2
  | x4
  | x8
  | x16
  deriving DecidableEq, Repr

def SlotWidth.all : List SlotWidth := [.unknown, .x1, .x2, .x4, .x8, .x16]

def SlotWidth.code : SlotWidth → UInt8
  | .unknown => 0x02
  | .x1 => 0x08
  | .x2 => 0x09
  | .x4 => 0x0A
  | .x8 => 0x0B
  | .x16 => 0x0D

def SlotWidth.lanes : SlotWidth → UInt8
  | .unknown => 0
  | .x1 => 1
  | .x2 => 2
  | .x4 => 4
  | .x8 => 8
  | .x16 => 16

inductive SlotUsage where
  | unknown
  | available
  | inUse
  deriving DecidableEq, Repr

def SlotUsage.code : SlotUsage → UInt8
  | .unknown => 0x02
  | .available => 0x03
  | .inUse => 0x04

structure PeerGroup where
  segment : UInt16
  bus : UInt8
  devFunc : UInt8
  width : UInt8
  deriving DecidableEq, Repr

def PeerGroup.toBytes (peer : PeerGroup) : Bytes :=
  Bytes.word16 peer.segment ++ [peer.bus, peer.devFunc, peer.width]

-- The length of the structure, its number of peer groups and the reference to the designation
-- follow from the fields here.
structure SystemSlot where
  designation : String
  kind : UInt8 := 9
  handle : UInt16 := 0xFFFE
  slotType : UInt8 := SlotType.other.code
  width : UInt8 := SlotWidth.unknown.code
  usage : UInt8 := SlotUsage.unknown.code
  slotLength : UInt8 := 0x02
  slotId : UInt16 := 0
  characteristics1 : UInt8 := 0
  characteristics2 : UInt8 := 0
  segment : UInt16 := 0xFFFF
  bus : UInt8 := 0xFF
  devFunc : UInt8 := 0xFF
  dataBusWidth : UInt8 := 0
  peers : List PeerGroup := []
  information : UInt8 := 0
  physicalWidth : UInt8 := 0
  pitch : UInt16 := 0
  height : UInt8 := 0x02
  deriving DecidableEq, Repr

namespace SystemSlot

def structureType : UInt8 := 9

def formattedSize (slot : SystemSlot) : Nat := 19 + 5 * slot.peers.length + 5

def fixedPart (slot : SystemSlot) (size designation : UInt8) : Bytes :=
  [slot.kind, size] ++ Bytes.word16 slot.handle ++
    [designation, slot.slotType, slot.width, slot.usage, slot.slotLength] ++
    Bytes.word16 slot.slotId ++ [slot.characteristics1, slot.characteristics2] ++
    Bytes.word16 slot.segment ++
    [slot.bus, slot.devFunc, slot.dataBusWidth, UInt8.ofNat slot.peers.length]

def extensionPart (slot : SystemSlot) : Bytes :=
  [slot.information, slot.physicalWidth] ++ Bytes.word16 slot.pitch ++ [slot.height]

def toBytes (slot : SystemSlot) : Except StructureError Bytes := do
  if 256 ≤ slot.formattedSize then
    throw (.tooLarge slot.formattedSize)
  let (designation, strings) ← StringSet.empty.add slot.designation
  return slot.fixedPart (UInt8.ofNat slot.formattedSize) designation ++
    slot.peers.flatMap PeerGroup.toBytes ++ slot.extensionPart ++ strings.toBytes

end SystemSlot

end FirmwareTables.Smbios
