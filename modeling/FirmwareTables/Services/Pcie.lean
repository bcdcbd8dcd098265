import FirmwareTables.Services.Error

set_option autoImplicit false

namespace FirmwareTables

structure PciAddress where
  segment : UInt16
  bus : UInt8
  device : UInt8
  function : UInt8
  deriving DecidableEq, Repr

namespace PciAddress

def origin : PciAddress := { segment := 0, bus := 0, device := 0, function := 0 }

-- Five bits of the device and three of the function; higher bits are dropped.
def devFunc (address : PciAddress) : UInt8 :=
  ((address.device &&& 0x1F) <<< 3) ||| (address.function &&& 0x7)

end PciAddress

structure PcieEngine where
  slot : UInt16
  address : PciAddress
  deriving DecidableEq, Repr

structure PcieWrapper where
  engines : List PcieEngine
  deriving DecidableEq, Repr

structure PcieSilicon where
  rootBridge : UInt8 := 0
  address : PciAddress := .origin
  cxlCapable : Bool := false
  wrappers : List PcieWrapper := []
  deriving DecidableEq, Repr

structure PcieComplex where
  silicons : List PcieSilicon
  deriving DecidableEq, Repr

structure PcieTopology where
  complexes : List PcieComplex
  deriving DecidableEq, Repr

namespace PcieTopology

def silicons (topology : PcieTopology) : List PcieSilicon :=
  topology.complexes.flatMap (·.silicons)

def engines (topology : PcieTopology) : List PcieEngine :=
  (topology.silicons.flatMap (·.wrappers)).flatMap (·.engines)

def slotAddress (topology : PcieTopology) (slot : UInt16) : Except ServiceError PciAddress :=
  match topology.engines.find? (·.slot = slot) with
  | some engine => .ok engine.address
  | none => .error .notFound

end PcieTopology

end FirmwareTables
