import FirmwareTables.Action
import FirmwareTables.Services.Pcie

set_option autoImplicit false

namespace FirmwareTables

inductive IoHub where
  | hub0
  | hub1
  deriving DecidableEq, Repr

def PcieSilicon.hub (silicon : PcieSilicon) : IoHub :=
  if silicon.rootBridge < 4 then .hub0 else .hub1

structure IoApicRegisters where
  id : UInt8
  lastEntry : UInt32
  deriving DecidableEq, Repr

inductive RegisterAccess where
  | write (address : UInt64) (value : UInt8)
  | read (address : UInt64) (value : UInt32)
  deriving DecidableEq, Repr

structure Fabric where
  ioApics : List (UInt64 × IoApicRegisters) := []
  selected : List (UInt64 × UInt8) := []
  accesses : List RegisterAccess := []
  hubs : List IoHub := []
  deriving DecidableEq, Repr

namespace Fabric

def dataOffset : UInt64 := 0x10

def idRegister : UInt8 := 0x00

def versionRegister : UInt8 := 0x01

def addIoApic (fabric : Fabric) (base : UInt32) (registers : IoApicRegisters) : Fabric :=
  { fabric with ioApics := (base.toUInt64, registers) :: fabric.ioApics }

def registerValue (registers : IoApicRegisters) (register : UInt8) : UInt32 :=
  if register = idRegister then registers.id.toUInt32 <<< 24
  else if register = versionRegister then ((registers.lastEntry &&& 0xFF) <<< 16) ||| 0x21
  else 0

-- A read outside of all data windows shows zero.
def valueAt (fabric : Fabric) (address : UInt64) : UInt32 :=
  let base := address - dataOffset
  match fabric.ioApics.lookup base, fabric.selected.lookup base with
  | some registers, some register => registerValue registers register
  | _, _ => 0

def select {ε : Type} (address : UInt64) (register : UInt8) : Action Fabric ε Unit := do
  let fabric ← Action.get
  Action.set { fabric with
    selected := (address, register) :: fabric.selected
    accesses := .write address register :: fabric.accesses }

def load {ε : Type} (address : UInt64) : Action Fabric ε UInt32 := do
  let fabric ← Action.get
  let value := fabric.valueAt address
  Action.set { fabric with accesses := .read address value :: fabric.accesses }
  return value

def readRegister {ε : Type} (base : UInt32) (register : UInt8) : Action Fabric ε UInt32 := do
  select base.toUInt64 register
  load (base.toUInt64 + dataOffset)

def redirectionEntries {ε : Type} (base : UInt32) : Action Fabric ε UInt32 := do
  let version ← readRegister base versionRegister
  return ((version >>> 16) &&& 0xFF) + 1

def ioApicId {ε : Type} (base : UInt32) : Action Fabric ε UInt8 := do
  let id ← readRegister base idRegister
  return ((id >>> 24) &&& 0xF).toUInt8

end Fabric

structure Nbio where
  topology : Except ServiceError PcieTopology
  baseRegister : PcieSilicon → IoHub → Except ServiceError UInt32

namespace Nbio

def ofRegisters (topology : Except ServiceError PcieTopology) (bases : List (UInt8 × UInt32)) :
    Nbio where
  topology
  baseRegister silicon _ :=
    match bases.reverse.lookup silicon.rootBridge with
    | some register => .ok register
    | none => .error .notFound

def defaultTopology (bases : List (UInt8 × UInt32)) : PcieTopology where
  complexes := [{ silicons := bases.map fun (rootBridge, _) => { rootBridge } }]

-- The low bits of a base register are flags.
def baseMask : UInt32 := 0xFFFFFF00

def ioApicBase (nbio : Nbio) (silicon : PcieSilicon) : Action Fabric ServiceError UInt32 := do
  let fabric ← Action.get
  Action.set { fabric with hubs := silicon.hub :: fabric.hubs }
  let register ← Action.ofExcept (nbio.baseRegister silicon silicon.hub)
  return register &&& baseMask

end Nbio

end FirmwareTables
