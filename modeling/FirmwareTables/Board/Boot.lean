import FirmwareTables.Madt.Installed
import FirmwareTables.Processor.Enumeration
import FirmwareTables.Smbios.SlotEnumeration
import FirmwareTables.Store.Merge

set_option autoImplicit false

namespace FirmwareTables

inductive BootError where
  | config (cause : ConfigError)
  | collation (cause : CollationError)
  | acpi (cause : AcpiError)
  | slots (cause : Smbios.SlotError)
  deriving DecidableEq

def BootError.message : BootError → String
  | .config cause => "Invalid platform configuration: " ++ cause.message
  | .collation cause => "Cannot collect the processors: " ++ cause.message
  | .acpi cause => "ACPI error: " ++ cause.message
  | .slots cause => "SMBIOS error: " ++ cause.message

structure Board where
  config : BoardConfig
  cpuid : Topology.Cpuid
  mp : MpServices
  soc : Soc
  ports : DxioTables
  nbio : Option Nbio

structure Machine where
  tables : TableStore
  structures : StructureStore
  fabric : Fabric

structure BootReport where
  processors : List Processor
  dsdt : Nat
  madt : Option Madt.PatchSummary
  slotHandles : List UInt16
  deriving DecidableEq

namespace Machine

variable {ε α : Type}

def onTables (x : Action TableStore ε α) : Action Machine ε α :=
  x.onPart (·.tables) fun tables machine => { machine with tables }

def onStructures (x : Action StructureStore ε α) : Action Machine ε α :=
  x.onPart (·.structures) fun structures machine => { machine with structures }

def onPlatform (x : Action Madt.Platform ε α) : Action Machine ε α :=
  x.onPart (fun machine => { tables := machine.tables, fabric := machine.fabric })
    fun platform machine => { machine with tables := platform.tables, fabric := platform.fabric }

end Machine

namespace Board

def collation (board : Board) (decoder : Topology.Decoder) : Collation where
  decoder
  ccdOrder := board.config.ccdOrder
  multiSocket := board.config.multiSocket

def boot (board : Board) : Action Machine BootError BootReport := do
  Action.ofExcept (board.config.validate.mapError .config)
  let decoder ← Topology.detect board.cpuid
  let collation := board.collation decoder
  let found ← (Processor.enumerate board.mp decoder).mapError .collation
  let processors ← Action.ofExcept ((collation.collate found).mapError .collation)
  let dsdt ← Machine.onTables ((TableStore.installDevices processors board.config).mapError .acpi)
  let madt ← Machine.onPlatform ((Madt.patchInstalled board.soc collation).mapError .acpi)
  let slotHandles ← Machine.onStructures
    ((Smbios.publishSlots board.ports board.nbio board.config).mapError .slots)
  Action.report .info .boot
    s!"{processors.length} processors published, {slotHandles.length} system slots"
  return { processors, dsdt, madt, slotHandles }

end Board

end FirmwareTables
