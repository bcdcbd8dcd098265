import FirmwareTables.Processor.Devices
import FirmwareTables.Store.TableStore
import FirmwareTables.Text.Utf8

set_option autoImplicit false

namespace FirmwareTables.TableStore

def mergeWording : Wording where
  component := .definitionBlocks
  topic := "acpi"
  former := "DSDT"
  latter := "merged DSDT"

def mergeBlock (oemTableId : FixedBytes 8) (block : Bytes) : Action TableStore AcpiError Nat := do
  let store ← Action.get
  match store.find Table.dsdtSignature (some oemTableId) with
  | none =>
    let id := Text.ofUtf8Lossy oemTableId.bytes
    Action.report .error .definitionBlocks ("acpi: cannot find DSDT table " ++ Text.quoted id)
    Action.fail (.notInstalled "DSDT" id)
  | some (key, bytes) =>
    let table ← Action.ofExcept ((Table.parse Table.dsdtSignature bytes).mapError .table)
    let merged ← Action.ofExcept ((table.append block).mapError .table)
    let mergedKey ← replace mergeWording key merged.toBytes
    Action.report .debug .definitionBlocks
      s!"acpi: appended {block.length} bytes to the DSDT ({merged.toBytes.length} bytes)"
    return mergedKey

def installDevices (processors : List Processor) (config : BoardConfig) :
    Action TableStore AcpiError Nat := do
  let table ← Processor.devicesTable processors config
  let key ← mergeBlock config.dsdtTableId table.body
  Action.report .info .processorDevices
    s!"cpu-ssdt: merged {table.size} bytes of processor devices"
  return key

end FirmwareTables.TableStore
