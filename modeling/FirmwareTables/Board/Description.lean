import FirmwareTables.Board.Boot
import FirmwareTables.Text.Described

set_option autoImplicit false

namespace FirmwareTables

def Topology.CcdOrder.describe (order : Topology.CcdOrder) : String :=
  "CcdOrder(" ++ Text.bracketed (order.ccds.map (·.toNat)) ++ ")"

def BoardConfig.describe (config : BoardConfig) : String :=
  Text.described "PlatformConfig"
    [s!"max_cpu_socket_count: {config.maxSockets.toNat}",
      s!"number_of_physical_sockets: {config.populatedSockets.toNat}",
      "ccd_order: " ++ config.ccdOrder.describe,
      s!"fch_ioapic_id: {config.fchIoApicId.toNat}",
      s!"fch_ioapic_address: {config.fchIoApicAddress.toNat}",
      s!"slot_characteristics1: {config.slotCharacteristics1.toNat}",
      s!"slot_characteristics2: {config.slotCharacteristics2.toNat}",
      "dsdt_oem_table_id: " ++ Text.quoted config.dsdtOemTableId,
      "ssdt_oem_id: " ++ Text.quoted config.ssdtOemId,
      "ssdt_oem_table_id: " ++ Text.quoted config.ssdtOemTableId]

def Board.describe (board : Board) : String :=
  Text.described "BoardInit" ["config: " ++ board.config.describe, s!"nbio: {board.nbio.isSome}", ".."]

end FirmwareTables
