import FirmwareTables.Services.Pcie

set_option autoImplicit false

namespace FirmwareTables

structure RootBridge where
  index : Nat
  socket : UInt8
  segment : UInt16
  baseBus : UInt8
  maxBus : UInt8
  deriving DecidableEq, Repr

def RootBridge.address (bridge : RootBridge) : PciAddress :=
  { PciAddress.origin with segment := bridge.segment, bus := bridge.baseBus }

structure RootPort where
  index : Nat
  address : PciAddress
  deriving DecidableEq, Repr

-- Root bridges and root ports are numbered from 1.
structure PciResources where
  bridgeCount : Except ServiceError Nat
  bridge : Nat → Except ServiceError RootBridge
  portCount : Nat → Except ServiceError Nat
  port : Nat → Nat → Except ServiceError RootPort

structure BridgeList where
  bridges : List (RootBridge × Nat) := []
  count : Option Nat := none
  countFault : Option ServiceError := none
  portCountFault : Option ServiceError := none
  portFault : Option ServiceError := none

namespace BridgeList

def answer {α : Type} (fault : Option ServiceError) (otherwise : Except ServiceError α) :
    Except ServiceError α :=
  match fault with
  | some cause => .error cause
  | none => otherwise

def bridgeAt (list : BridgeList) : Nat → Except ServiceError RootBridge
  | 0 => .error .invalidParameter
  | position + 1 =>
    match list.bridges[position]? with
    | some (bridge, _) => .ok bridge
    | none => .error .invalidParameter

def portCountOf (list : BridgeList) (index : Nat) : Except ServiceError Nat :=
  match list.bridges.find? (·.1.index = index) with
  | some (_, count) => .ok count
  | none => .error .notFound

def services (list : BridgeList) : PciResources where
  bridgeCount := answer list.countFault (.ok (list.count.getD list.bridges.length))
  bridge := list.bridgeAt
  portCount index := answer list.portCountFault (list.portCountOf index)
  port bridge port := answer list.portFault
    (.ok { index := port, address := { PciAddress.origin with segment := UInt16.ofNat bridge } })

end BridgeList

abbrev NumaServices : Type := PciAddress → Except ServiceError (List UInt32)

namespace NumaServices

def ofList (domains : List (PciAddress × List UInt32)) : NumaServices := fun address =>
  match domains.lookup address with
  | some found => .ok found
  | none => .error .notFound

def firstDomain (numa : NumaServices) (address : PciAddress) : Option UInt32 :=
  match numa address with
  | .ok (domain :: _) => some domain
  | _ => none

end NumaServices

structure CxlRootPort where
  endpoint : PciAddress
  registerBlock : UInt64
  deriving DecidableEq, Repr

-- Ports of CXL 2 have no register block.
def CxlRootPort.isCxl2 (port : CxlRootPort) : Bool := port.registerBlock == 0

-- Ports are numbered from 0.
structure CxlServices where
  count : Nat
  port : Nat → Except ServiceError CxlRootPort

def CxlServices.ofList (ports : List (Except ServiceError CxlRootPort)) : CxlServices where
  count := ports.length
  port index := ports.getD index (.error .invalidParameter)

end FirmwareTables
