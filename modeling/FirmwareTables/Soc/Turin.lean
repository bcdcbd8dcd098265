import FirmwareTables.Services.Sequence
import FirmwareTables.Soc.Basic
import FirmwareTables.Text.Described

set_option autoImplicit false

namespace FirmwareTables

structure Turin where
  fchIoApicId : UInt8 := 0xF0
  fchIoApicAddress : UInt32 := 0xFEC00000
  nbio : Option Nbio := none
  pciResources : Option PciResources := none
  numa : Option NumaServices := none
  cxl : Option CxlServices := none

namespace Turin

def maxIoApics : Nat := 32

def report {ε : Type} (level : Level) (message : String) : Action Fabric ε Unit :=
  Action.report level .soc ("soc: " ++ message)

-- Describes the IOAPICs of the silicons; `count` of them come before, and `gsiBase` is free.
def siliconIoApics (nbio : Nbio) :
    List PcieSilicon → Nat → UInt32 → Action Fabric ServiceError (List IoApicInfo)
  | [], _, _ => return []
  | silicon :: rest, count, gsiBase => do
    if maxIoApics ≤ count then
      report .error s!"more than {maxIoApics} IOAPICs on the platform"
      Action.fail .outOfResources
    else
      let address ← nbio.ioApicBase silicon
      let id ← Fabric.ioApicId address
      let entries ← Fabric.redirectionEntries address
      let later ← siliconIoApics nbio rest (count + 1) (gsiBase + entries)
      return { id, address, gsiBase } :: later

def ioApics (turin : Turin) : Action Fabric ServiceError (List IoApicInfo) := do
  match turin.nbio with
  | none =>
    report .debug "NBIO PCIe services not available"
    Action.fail .notFound
  | some nbio =>
    let topology ← Action.ofExcept nbio.topology
    let entries ← Fabric.redirectionEntries turin.fchIoApicAddress
    let later ← siliconIoApics nbio topology.silicons 1 entries
    return { id := turin.fchIoApicId, address := turin.fchIoApicAddress, gsiBase := 0 } :: later

def capablePorts (turin : Turin) : List CxlPort :=
  match turin.nbio.map Nbio.topology with
  | some (.ok topology) =>
    (topology.silicons.filter (·.cxlCapable)).map fun silicon =>
      { endpoint := silicon.address, isCxl2 := true }
  | _ => []

-- Room for all ports is taken before the first is read; counts for which memory has none are left
-- out of the model, here and for the root bridges below.
def listedPorts (cxl : CxlServices) : List CxlPort :=
  (Services.beforeFailure ((List.range cxl.count).map cxl.port)).map fun port =>
    { endpoint := port.endpoint, isCxl2 := port.isCxl2 }

-- Capable silicons take precedence over the CXL services. This never fails.
def cxlPorts {ε : Type} (turin : Turin) : Action Fabric ε (List CxlPort) := do
  match turin.capablePorts, turin.cxl with
  | port :: more, _ => return port :: more
  | [], some cxl => return listedPorts cxl
  | [], none =>
    report .debug "CXL services not available"
    return []

def proximityDomain (turin : Turin) (bridge : RootBridge) : UInt32 :=
  (turin.numa.bind (·.firstDomain bridge.address)).getD bridge.socket.toUInt32

def cxlPortOf (ports : List CxlPort) (bridge : RootBridge) : Option CxlPort :=
  ports.find? fun port =>
    port.endpoint.segment = bridge.segment && port.endpoint.bus = bridge.baseBus

def query {α : Type} (purpose : String) (answer : Except ServiceError α) :
    Action Fabric ServiceError α := do
  match answer with
  | .ok a => return a
  | .error cause =>
    report .error ("failed to get " ++ purpose ++ ": " ++ cause.message)
    Action.fail cause

def describeBridges (turin : Turin) (resources : PciResources) (ioApics : List IoApicInfo)
    (cxlPorts : List CxlPort) : Nat → Nat → Action Fabric ServiceError (List RootBridgeInstance)
  | _, 0 => return []
  | number, count + 1 => do
    let bridge ← query s!"root bridge {number} information" (resources.bridge number)
    -- The IOAPIC of the FCH comes first, so the one with the number of the bridge is its own.
    match ioApics[number]? with
    | none =>
      report .error s!"no IOAPIC for root bridge {number}"
      Action.fail .notFound
    | some ioApic =>
      let portCount ← query "the number of root ports" (resources.portCount bridge.index)
      let rootPorts ← query "root port information"
        (Services.readRange (resources.port bridge.index) 1 portCount)
      let later ← describeBridges turin resources ioApics cxlPorts (number + 1) count
      return {
        bridge, rootPorts
        interruptStart := ioApic.gsiBase
        proximityDomain := turin.proximityDomain bridge
        cxlPort := cxlPortOf cxlPorts bridge } :: later

def rootBridges (turin : Turin) : Action Fabric ServiceError (List RootBridgeInstance) := do
  match ← turin.ioApics.attempt with
  | .error cause =>
    report .error ("cannot obtain NBIO IOAPIC information: " ++ cause.message)
    Action.fail .notFound
  | .ok ioApics =>
    match turin.pciResources with
    | none =>
      report .error "PCI resources service not available"
      Action.fail .notFound
    | some resources =>
      let count ← query "the number of root bridges" resources.bridgeCount
      let cxlPorts ← turin.cxlPorts
      describeBridges turin resources ioApics cxlPorts 1 count

def soc (turin : Turin) : Soc where
  ioApics := turin.ioApics
  cxlPorts := turin.cxlPorts
  rootBridges := turin.rootBridges

def describe (turin : Turin) : String :=
  Text.described "TurinSoc"
    [s!"fch_ioapic_id: {turin.fchIoApicId.toNat}",
      s!"fch_ioapic_address: {turin.fchIoApicAddress.toNat}", s!"nbio: {turin.nbio.isSome}",
      s!"pci_resources: {turin.pciResources.isSome}", s!"fabric_numa: {turin.numa.isSome}",
      s!"cxl: {turin.cxl.isSome}"]

end Turin

end FirmwareTables
