import FirmwareTables.Madt.Walk
import FirmwareTables.Soc.Basic
import FirmwareTables.Store.Error
import FirmwareTables.Text.Described

set_option autoImplicit false

namespace FirmwareTables

instance : Collatable Madt.LocalX2Apic where
  apicId fields := fields.id
  withUid fields uid := { fields with uid }

namespace Madt

-- Active low, level triggered.
def overrideFlags : UInt16 := 0x000F

-- Active high, edge triggered.
def nmiFlags : UInt16 := 0x0005

def revisionOffset : Nat := 8

structure PatchSummary where
  ioApics : Nat := 0
  reserved : Nat := 0
  interruptOverrides : Nat := 0
  x2ApicNmis : Nat := 0
  x2Apics : Nat := 0
  deriving DecidableEq, Repr

namespace Entry

def localX2Apic? (entry : Entry) : Option LocalX2Apic :=
  match entry.content with
  | .localX2Apic fields => some fields
  | _ => none

def isOddX2Apic (entry : Entry) : Bool :=
  match entry.content with
  | .localX2Apic fields => fields.length.toNat ≠ localX2ApicSize
  | _ => false

end Entry

def patchableEntries (table : Bytes) : Except TableError (List Entry) := do
  let found ← entries table
  match found.find? (·.isOddX2Apic) with
  | some entry => throw (.malformedStructure entry.offset)
  | none => return found

abbrev Buffer : Type := Array UInt8

def Buffer.store (offset : Nat) : Bytes → Buffer → Buffer
  | [], buffer => buffer
  | b :: rest, buffer => Buffer.store (offset + 1) rest (buffer.setIfInBounds offset b)

theorem Buffer.toList_store {offset : Nat} {bytes : Bytes} {buffer : Buffer}
    (fits : offset + bytes.length ≤ buffer.size) :
    (Buffer.store offset bytes buffer).toList = Bytes.overwrite offset bytes buffer.toList := by
  induction bytes generalizing offset buffer with
  | nil => simp [Buffer.store, Bytes.overwrite]
  | cons b rest ih =>
      have within : offset < buffer.toList.length := by
        simp only [List.length_cons, Array.length_toList] at fits ⊢
        omega
      have fits' : offset + 1 + rest.length ≤ (buffer.setIfInBounds offset b).size := by
        simp only [List.length_cons, Array.size_setIfInBounds] at fits ⊢
        omega
      have front : (buffer.toList.set offset b).take (offset + 1) = buffer.toList.take offset ++ [b] := by
        rw [List.take_add_one, List.take_set_of_le (Nat.le_refl _), List.getElem?_set_self within]
        rfl
      have back : (buffer.toList.set offset b).drop (offset + (rest.length + 1)) =
          buffer.toList.drop (offset + (rest.length + 1)) := by
        rw [List.drop_set_of_lt (by omega)]
      have width : offset + 1 + rest.length = offset + (rest.length + 1) := by omega
      rw [Buffer.store, ih fits', Array.toList_setIfInBounds]
      simp only [Bytes.overwrite, front, width, back, List.length_cons, List.append_assoc,
        List.cons_append, List.nil_append]

abbrev Patching (α : Type) : Type := Action Buffer AcpiError α

def writeAt (offset : Nat) (bytes : Bytes) : Patching Unit := fun buffer =>
  if offset + bytes.length ≤ buffer.size then
    ⟨.ok (), Buffer.store offset bytes buffer, []⟩
  else
    ⟨.error (.table (.tooShort (offset + bytes.length) buffer.size)), buffer, []⟩

def setRevision : Patching Nat := do
  let buffer ← Action.get
  if buffer.size < headerSize then
    Action.fail (.table (.tooShort headerSize 0))
  else
    writeAt revisionOffset [revision]
    return TableHeader.lengthField buffer.toList

-- The IOAPICs of the platform are handed out in order; one for which none is left is reserved.
-- x2APICs have their turn later.
def patchStructure (platform : List IoApicInfo) (summary : PatchSummary) (entry : Entry) :
    Patching PatchSummary := do
  match entry.content with
  | .ioApic fields =>
    match platform[summary.ioApics]? with
    | some info =>
      writeAt entry.offset (Structure.ioApic { fields with
        id := info.id, address := info.address, gsiBase := info.gsiBase }).encode
      return { summary with ioApics := summary.ioApics + 1 }
    | none =>
      writeAt entry.offset [reservedType]
      return { summary with ioApics := summary.ioApics + 1, reserved := summary.reserved + 1 }
  | .interruptOverride fields =>
    writeAt entry.offset (Structure.interruptOverride { fields with flags := overrideFlags }).encode
    return { summary with interruptOverrides := summary.interruptOverrides + 1 }
  | .localX2ApicNmi fields =>
    writeAt entry.offset (Structure.localX2ApicNmi { fields with flags := nmiFlags }).encode
    return { summary with x2ApicNmis := summary.x2ApicNmis + 1 }
  | .localX2Apic _ => return summary
  | .other .. => return summary

def patchStructures (platform : List IoApicInfo) :
    PatchSummary → List Entry → Patching PatchSummary
  | summary, [] => return summary
  | summary, entry :: rest => do
    let counted ← patchStructure platform summary entry
    patchStructures platform counted rest

def writeX2Apics : List Nat → List LocalX2Apic → Patching Unit
  | offset :: places, next :: ordered => do
    writeAt offset (Structure.localX2Apic next).encode
    writeX2Apics places ordered
  | _, _ => return ()

def stampDeclared (declared : Nat) : Patching Unit := do
  let buffer ← Action.get
  let table ← Action.ofExcept
    ((Table.updateChecksum (buffer.toList.take declared)).mapError .table)
  Action.set (table ++ buffer.toList.drop declared).toArray

def report {σ : Type} (level : Level) (message : String) : Action σ AcpiError Unit :=
  Action.report level .interruptTable ("madt: " ++ message)

def PatchSummary.describe (summary : PatchSummary) : String :=
  Text.described "MadtPatchSummary"
    [s!"ioapics: {summary.ioApics}", s!"reserved: {summary.reserved}",
      s!"interrupt_source_overrides: {summary.interruptOverrides}",
      s!"x2apic_nmis: {summary.x2ApicNmis}", s!"x2apics: {summary.x2Apics}"]

def patchBuffer (platform : List IoApicInfo) (collation : Collation) : Patching PatchSummary := do
  let buffer ← Action.get
  let found ← Action.ofExcept ((patchableEntries buffer.toList).mapError .table)
  let declared ← setRevision
  let counted ← patchStructures platform {} found
  let x2Apics := found.filter (·.localX2Apic?.isSome)
  let ordered ← Action.ofExcept
    ((collation.collate (x2Apics.filterMap (·.localX2Apic?))).mapError .collation)
  writeX2Apics (x2Apics.map (·.offset)) ordered
  let summary := { counted with x2Apics := ordered.length }
  if 0 < summary.reserved then
    report .info
      (s!"{summary.reserved} IOAPIC structures beyond the {platform.length} platform IOAPICs" ++
        " marked reserved")
  stampDeclared declared
  report .debug ("patched " ++ summary.describe)
  return summary

structure Workspace where
  table : Bytes
  fabric : Fabric

-- There is nothing to patch without IOAPICs of the platform, whatever the table holds.
def patchInPlace (soc : Soc) (collation : Collation) :
    Action Workspace AcpiError (Option PatchSummary) := do
  match ← soc.ioApics.attempt.onPart (·.fabric) fun fabric w => { w with fabric } with
  | .error cause =>
    report .warn ("no IOAPIC information (" ++ cause.message ++ "), table left unchanged")
    return none
  | .ok [] =>
    report .warn "platform reports no IOAPIC, table left unchanged"
    return none
  | .ok platform =>
    let summary ← (patchBuffer platform collation).onPart (·.table.toArray)
      fun buffer w => { w with table := buffer.toList }
    return some summary

end Madt

end FirmwareTables
