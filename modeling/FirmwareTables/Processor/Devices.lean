import FirmwareTables.Aml.Term
import FirmwareTables.Board.Config
import FirmwareTables.Store.Error
import FirmwareTables.Table.Basic

set_option autoImplicit false

namespace FirmwareTables

namespace Processor

def namePath (segment : FixedBytes 4) : Aml.Path := { rooted := false, segments := [segment] }

def systemBus : Aml.Path := { rooted := true, segments := [⟨[0x5F, 0x53, 0x42, 0x5F], rfl⟩] }

def hardwareId : Aml.Path := namePath ⟨[0x5F, 0x48, 0x49, 0x44], rfl⟩

def uniqueId : Aml.Path := namePath ⟨[0x5F, 0x55, 0x49, 0x44], rfl⟩

def statusMethod : Aml.Path := namePath ⟨[0x5F, 0x53, 0x54, 0x41], rfl⟩

def packageName : Aml.Path := namePath ⟨[0x50, 0x41, 0x43, 0x4B], rfl⟩

def ccdName : Aml.Path := namePath ⟨[0x43, 0x43, 0x44, 0x5F], rfl⟩

def complexName : Aml.Path := namePath ⟨[0x43, 0x43, 0x58, 0x5F], rfl⟩

def coreName : Aml.Path := namePath ⟨[0x43, 0x4F, 0x52, 0x45], rfl⟩

def threadName : Aml.Path := namePath ⟨[0x54, 0x48, 0x52, 0x44], rfl⟩

def hardwareIdText : String := "ACPI0007"

def deviceName (index : Nat) : String := "C" ++ Text.upperHex 3 index

def shortest (value : UInt32) : Aml.Term := .integer (.ofWord value.toUInt64)

def deviceBody (processor : Processor) : List Aml.Term :=
  [.name hardwareId (.ofText hardwareIdText),
    .name uniqueId (shortest processor.uid),
    .method statusMethod 0 false
      [.ret (shortest (ProcessorStatus.acpiStatus processor.status))],
    .name packageName (shortest processor.location.package),
    .name ccdName (shortest processor.location.ccd),
    .name complexName (shortest processor.location.complex),
    .name coreName (shortest processor.location.core),
    .name threadName (shortest processor.location.thread)]

def device (index : Nat) (processor : Processor) : Except Aml.PathError Aml.Term := do
  return .device (← Aml.Path.ofText (deviceName index)) (deviceBody processor)

def present (processors : List Processor) : List (Nat × Processor) :=
  (processors.zipIdx.filter (·.1.isPresent)).map fun (processor, index) => (index, processor)

def devicesBlock (processors : List Processor) : Except Aml.PathError Bytes := do
  let devices ← (present processors).mapM fun (index, processor) => device index processor
  Aml.Term.encode (.scope systemBus devices)

-- The table of processor devices. The list must be collated: names follow its order.
def devicesTable {σ : Type} (processors : List Processor) (config : BoardConfig) :
    Action σ AcpiError Table := do
  Action.report .debug .processorDevices
    s!"cpu-ssdt: {(present processors).length} processor devices for {processors.length} processors"
  let block ← Action.ofExcept ((devicesBlock processors).mapError .aml)
  let origin := { oemId := config.ssdtId, oemTableId := config.ssdtTableId, oemRevision := 0 }
  Action.ofExcept ((Table.ssdt origin block).mapError .table)

end Processor

end FirmwareTables
