import FirmwareTables.Services.Fabric
import FirmwareTables.Services.RootBridge

set_option autoImplicit false

namespace FirmwareTables

structure IoApicInfo where
  id : UInt8
  address : UInt32
  gsiBase : UInt32
  deriving DecidableEq, Repr

structure CxlPort where
  endpoint : PciAddress
  isCxl2 : Bool
  deriving DecidableEq, Repr

structure RootBridgeInstance where
  bridge : RootBridge
  interruptStart : UInt32
  proximityDomain : UInt32
  cxlPort : Option CxlPort
  rootPorts : List RootPort
  deriving DecidableEq, Repr

structure Soc where
  ioApics : Action Fabric ServiceError (List IoApicInfo)
  cxlPorts : Action Fabric ServiceError (List CxlPort)
  rootBridges : Action Fabric ServiceError (List RootBridgeInstance)

namespace Soc

def unsupported : Soc where
  ioApics := Action.fail .unsupported
  cxlPorts := Action.fail .unsupported
  rootBridges := Action.fail .unsupported

def fixed (ioApics : Except ServiceError (List IoApicInfo)) : Soc where
  ioApics := Action.ofExcept ioApics
  cxlPorts := Action.succeed []
  rootBridges := Action.succeed []

end Soc

end FirmwareTables
