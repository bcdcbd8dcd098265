import FirmwareTables.Services.Fabric
import FirmwareTables.Smbios.SlotRecord
import FirmwareTables.Store.StructureStore

set_option autoImplicit false

namespace FirmwareTables.Smbios

inductive SlotError where
  | structure (cause : StructureError)
  | service (cause : ServiceError)
  deriving DecidableEq, Repr

def SlotError.message : SlotError → String
  | .structure cause => "SMBIOS structure error: " ++ cause.message
  | .service cause => "Platform service failure: " ++ cause.message

-- A port without a written form is left out; a refusal of the store ends the enumeration.
def publish (topology : Option PcieTopology) (config : BoardConfig) :
    List DxioPort → Action StructureStore SlotError (List UInt16)
  | [] => return []
  | port :: rest => do
    let slot ← slotRecord topology config port
    match slot.toBytes with
    | .ok bytes =>
      let handle ← (StructureStore.add bytes).mapError SlotError.service
      let later ← publish topology config rest
      return handle :: later
    | .error cause =>
      report .error (s!"system slot {port.slot.toNat} error: " ++ cause.message)
      publish topology config rest

def publishSockets (tables : DxioTables) (topology : Option PcieTopology) (config : BoardConfig) :
    List Nat → Action StructureStore SlotError (List UInt16)
  | [] => return []
  | socket :: rest => do
    match tables socket with
    | none =>
      report .debug s!"no DXIO topology for socket {socket}"
      publishSockets tables topology config rest
    | some table =>
      let handles ← publish topology config (DxioPort.populated table)
      let later ← publishSockets tables topology config rest
      return handles ++ later

def readTopology {σ ε : Type} (nbio : Option Nbio) : Action σ ε (Option PcieTopology) := do
  match nbio.map Nbio.topology with
  | none => return none
  | some (.ok topology) => return some topology
  | some (.error cause) =>
    report .warn ("cannot read the PCIe topology: " ++ cause.message)
    return none

def publishSlots (tables : DxioTables) (nbio : Option Nbio) (config : BoardConfig) :
    Action StructureStore SlotError (List UInt16) := do
  let topology ← readTopology nbio
  let sockets := List.range config.populatedSockets.toNat
  let handles ← publishSockets tables topology config sockets
  report .debug s!"{handles.length} system slot records"
  return handles

end FirmwareTables.Smbios
