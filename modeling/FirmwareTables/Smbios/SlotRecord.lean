import FirmwareTables.Action
import FirmwareTables.Board.Config
import FirmwareTables.Board.Port
import FirmwareTables.Smbios.SystemSlot

set_option autoImplicit false

namespace FirmwareTables.Smbios

-- Ports of unknown speed count as the fastest ones.
def slotTypeOf (port : DxioPort) : SlotType :=
  match port.engineType, port.linkSpeed with
  | .pcie, .gen1 => .pciExpress
  | .pcie, .gen2 => .pciExpressGen2
  | .pcie, .gen3 => .pciExpressGen3
  | .pcie, .gen4 => .pciExpressGen4
  | .pcie, _ => .pciExpressGen5
  | _, _ => .other

def slotWidthOf (port : DxioPort) : SlotWidth :=
  match port.laneSpan with
  | some 15 => .x16
  | some 7 => .x8
  | some 3 => .x4
  | some 1 => .x2
  | _ => .x1

def slotUsageOf (port : DxioPort) : SlotUsage :=
  match port.endpoint with
  | .detected => .inUse
  | .notPresent => .available
  | .unknown => .unknown

def SystemSlot.ofPort (port : DxioPort) (config : BoardConfig) : SystemSlot where
  designation := s!"PCIE-{port.slot.toNat}"
  slotType := (slotTypeOf port).code
  width := (slotWidthOf port).code
  dataBusWidth := (slotWidthOf port).lanes
  usage := (slotUsageOf port).code
  slotId := port.slot
  characteristics1 := config.slotCharacteristics1
  characteristics2 := config.slotCharacteristics2
  physicalWidth := (slotWidthOf port).code

def SystemSlot.at (slot : SystemSlot) (address : PciAddress) : SystemSlot :=
  { slot with segment := address.segment, bus := address.bus, devFunc := address.devFunc }

variable {σ ε : Type}

def report (level : Level) (message : String) : Action σ ε Unit :=
  Action.report level .slots ("smbios: " ++ message)

def slotRecord (topology : Option PcieTopology) (config : BoardConfig) (port : DxioPort) :
    Action σ ε SystemSlot := do
  let slot := SystemSlot.ofPort port config
  match topology with
  | none =>
    report .error s!"no PCIe topology for slot {port.slot.toNat}"
    return slot
  | some topology =>
    match topology.slotAddress port.slot with
    | .ok address => return slot.at address
    | .error cause =>
      report .error (s!"no SBDF information for slot {port.slot.toNat}: " ++ cause.message)
      return slot

end FirmwareTables.Smbios
