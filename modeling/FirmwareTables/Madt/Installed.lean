import FirmwareTables.Madt.Patch
import FirmwareTables.Store.TableStore

set_option autoImplicit false

namespace FirmwareTables.Madt

structure Platform where
  tables : TableStore
  fabric : Fabric

def replaceWording : TableStore.Wording where
  component := .interruptTable
  topic := "madt"
  former := "MADT"
  latter := "patched MADT"

def onCopy {ε α : Type} (table : Bytes) (x : Action Workspace ε α) : Action Platform ε (α × Bytes) :=
  fun platform =>
    let out := x.run { table, fabric := platform.fabric }
    ⟨out.result.map (·, out.state.table), { platform with fabric := out.state.fabric }, out.events⟩

def patchInstalled (soc : Soc) (collation : Collation) :
    Action Platform AcpiError (Option PatchSummary) := do
  let before ← Action.get
  match before.tables.find Table.madtSignature none with
  | none =>
    report .error "no MADT installed"
    Action.fail (.notInstalled "APIC" "*")
  | some (key, table) =>
    match ← onCopy table (patchInPlace soc collation) with
    | (none, _) => return none
    | (some summary, patched) =>
      let _ ← (TableStore.replace replaceWording key patched).onPart (·.tables)
        fun tables p => { p with tables }
      return some summary

end FirmwareTables.Madt
