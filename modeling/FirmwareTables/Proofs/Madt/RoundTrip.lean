import FirmwareTables.Proofs.Madt.Walked
import FirmwareTables.Proofs.Table.Built

set_option autoImplicit false

namespace FirmwareTables.Madt

-- All of a structure whose type has no layout.
structure Undecoded where
  number : UInt8
  length : UInt8
  rest : Bytes
  proper : (Structure.other number length).Proper
  size : length.toNat = rest.length + 2

inductive Source where
  | ioApic (id : UInt8) (address gsiBase : UInt32)
  | interruptOverride (source : UInt8) (gsi : UInt32) (flags : UInt16)
  | localX2Apic (id uid : UInt32) (enabled : Bool)
  | localX2ApicNmi (uid : UInt32) (flags : UInt16) (lint : UInt8)
  | undecoded (whole : Undecoded)

namespace Source

def content : Source → Structure
  | .ioApic id address gsiBase => .ioApic { id, address, gsiBase }
  | .interruptOverride source gsi flags => .interruptOverride { source, gsi, flags }
  | .localX2Apic id uid enabled => .localX2Apic (.ofEnabled id uid enabled)
  | .localX2ApicNmi uid flags lint =>
    .localX2ApicNmi { uid, flags, lint, reserved := .padded 3 0 [] }
  | .undecoded whole => .other whole.number whole.length

def tail : Source → Bytes
  | .undecoded whole => whole.rest
  | _ => []

def bytes (source : Source) : Bytes := source.content.encode ++ source.tail

def entryAt (offset : Nat) (source : Source) : Entry where
  offset := offset
  content := source.content
  bytes := source.bytes

theorem proper (source : Source) : source.content.Proper := by
  cases source with
  | undecoded whole => exact whole.proper
  | _ => trivial

theorem size (source : Source) : source.content.lengthByte.toNat = source.bytes.length := by
  cases source with
  | undecoded whole =>
    simp [content, tail, bytes, Structure.lengthByte, Structure.encode, whole.size]
  | _ => simp [content, tail, bytes, Structure.lengthByte, Structure.encode, LocalX2Apic.ofEnabled]

theorem decoded (offset : Nat) (source : Source) : (source.entryAt offset).Decoded := by
  obtain ⟨fields, front⟩ := source.content.encode_front
  constructor
  · refine ⟨source.content.number, source.content.lengthByte, fields ++ source.tail, ?_, source.size⟩
    change source.content.encode ++ source.tail = _
    rw [front]
    rfl
  · exact Structure.read_encode_append source.content source.proper source.tail

end Source

def placed : Nat → List Source → List Entry
  | _, [] => []
  | offset, source :: rest => source.entryAt offset :: placed (offset + source.bytes.length) rest

theorem tiled_placed (offset : Nat) (sources : List Source) : Tiled offset (placed offset sources) := by
  induction sources generalizing offset with
  | nil => trivial
  | cons source rest ih => exact ⟨rfl, source.decoded offset, ih (offset + source.bytes.length)⟩

theorem area_placed (offset : Nat) (sources : List Source) :
    area (placed offset sources) = sources.flatMap (·.bytes) := by
  induction sources generalizing offset with
  | nil => rfl
  | cons source rest ih =>
    rw [placed, area_cons, ih, List.flatMap_cons]
    rfl

theorem exists_build (origin : Table.Origin) (baseAddress : UInt32) {structures : Bytes}
    (small : headerSize + structures.length < 2 ^ 32) :
    ∃ table, build origin baseAddress structures = .ok table ∧ Framed table.toBytes ∧
      (declaredPart table.toBytes).drop headerSize = structures := by
  have fits : Table.headerSize +
      (Bytes.word32 baseAddress ++ Bytes.word32 0 ++ structures).length < 2 ^ 32 := by
    simp only [List.length_append, Bytes.length_word32]
    rw [headerSize] at small
    rw [Table.headerSize]
    omega
  obtain ⟨table, built, signature, body, intact⟩ :=
    Table.exists_build Table.madtSignature revision origin fits
  have whole : table.toBytes =
      table.header.toBytes ++ (Bytes.word32 baseAddress ++ Bytes.word32 0) ++ structures := by
    rw [Table.toBytes, body, List.append_assoc, List.append_assoc, List.append_assoc]
  have front : (table.header.toBytes ++ (Bytes.word32 baseAddress ++ Bytes.word32 0)).length =
      headerSize := by
    simp [Table.headerSize, headerSize]
  have long : headerSize ≤ table.toBytes.length := by
    rw [whole, List.length_append, front]
    exact Nat.le_add_right _ _
  have room : Table.headerSize ≤ table.toBytes.length := Nat.le_trans (by decide) long
  refine ⟨table, built, ?_, ?_⟩
  · exact {
      header := room
      declared := intact.declared.symm ▸ room
      fits := Nat.le_of_eq intact.declared
      signature := by rw [Table.toBytes, TableHeader.signature_bytes, signature]
      room := intact.declared.symm ▸ long }
  · rw [declaredPart, intact.declared, List.take_length, whole, List.drop_left' front]

theorem walk_placed (origin : Table.Origin) (baseAddress : UInt32) (sources : List Source)
    (small : headerSize + (sources.flatMap (·.bytes)).length < 2 ^ 32) :
    ∃ table, build origin baseAddress (sources.flatMap (·.bytes)) = .ok table ∧
      walk table.toBytes = .ok { entries := placed headerSize sources, stuck := none } := by
  obtain ⟨table, built, framed, structures⟩ := exists_build origin baseAddress small
  refine ⟨table, built, ?_⟩
  rw [walk_of_framed framed, structures, Except.ok.injEq, walkFrom_eq_iff]
  exact ⟨tiled_placed headerSize sources, area_placed headerSize sources⟩

def writeBack (entries : List Entry) (table : Bytes) : Bytes :=
  entries.foldl (fun table entry => Bytes.overwrite entry.offset entry.content.encode table) table

theorem Entry.Decoded.overwrite_eq {entry : Entry} {table : Bytes} (decoded : entry.Decoded)
    (here : entry.slice table = entry.bytes) :
    Bytes.overwrite entry.offset entry.content.encode table = table := by
  obtain ⟨rest, whole⟩ := decoded.bytes_eq
  apply Bytes.overwrite_of_prefix
  have front : entry.content.encode <+: entry.slice table := by
    rw [here, whole]
    exact List.prefix_append _ _
  exact front.trans (List.take_prefix _ _)

theorem writeBack_eq {table : Bytes} {found : Walk} (walked : found.Exact table) (chosen : List Entry)
    (listed : chosen ⊆ found.entries) : writeBack chosen table = table := by
  induction chosen with
  | nil => rfl
  | cons entry rest ih =>
    have member := listed (List.mem_cons_self ..)
    have decoded := walked.tiled.decoded entry member
    have same := decoded.overwrite_eq (walked.inside entry member).2.2
    rw [writeBack, List.foldl_cons, same]
    exact ih fun _ later => listed (List.mem_cons_of_mem _ later)

/-- A table is walked to what it was built from, and what is found in a table is what its bytes say:
any of it, written back in any order, changes nothing. -/
theorem build_walk_roundTrip :
    (∀ (origin : Table.Origin) (baseAddress : UInt32) (sources : List Source),
      headerSize + (sources.flatMap (·.bytes)).length < 2 ^ 32 →
        ∃ table, build origin baseAddress (sources.flatMap (·.bytes)) = .ok table ∧
          walk table.toBytes = .ok { entries := placed headerSize sources, stuck := none }) ∧
    ∀ (table : Bytes) (found : Walk), walk table = .ok found →
      ∀ chosen ⊆ found.entries, writeBack chosen table = table := by
  refine ⟨walk_placed, ?_⟩
  intro table found walked
  obtain ⟨bytes, accepted, _⟩ := Action.bind_eq_ok.mp walked
  have framed := (structureArea_eq_ok_iff.mp accepted).1
  rw [walk_of_framed framed, Except.ok.injEq] at walked
  exact writeBack_eq (framed.exact walked)

def localApic : Undecoded where
  number := 0x00
  length := 8
  rest := [0, 0, 1, 0, 0, 0]
  proper := ⟨by decide, by decide, by decide, by decide⟩
  size := rfl

def mixedSources : List Source :=
  [.undecoded localApic, .ioApic 0xF0 0xFEC00000 24, .interruptOverride 9 9 0xD,
    .localX2Apic 3 1 true, .localX2ApicNmi 0xFFFFFFFF 0 1]

def longIoApic : IoApic := { length := 14, id := 1, address := 2, gsiBase := 3, reserved := 4 }

-- An IOAPIC with two bytes behind its layout, a structure without one, and a byte past the end.
def longTable : Bytes :=
  Table.madtSignature.bytes ++ Bytes.word32 61 ++ List.replicate 36 0 ++
    (Structure.ioApic longIoApic).encode ++ [0xAA, 0xBB] ++ [0x99, 3, 0] ++ [0xFF]

def longEntries : List Entry :=
  [⟨44, .ioApic longIoApic, (Structure.ioApic longIoApic).encode ++ [0xAA, 0xBB]⟩,
    ⟨58, .other 0x99 3, [0x99, 3, 0]⟩]

theorem build_walk_roundTrip_mixedSources :
    let origin : Table.Origin :=
      { oemId := .ofText 6 "AMD", oemTableId := .ofText 8 "AmdTable", oemRevision := 1 }
    headerSize + (mixedSources.flatMap (·.bytes)).length < 2 ^ 32 ∧
      (∃ table, build origin 0xFEE00000 (mixedSources.flatMap (·.bytes)) = .ok table ∧
        walk table.toBytes = .ok { entries := placed headerSize mixedSources, stuck := none }) ∧
      walk longTable = .ok { entries := longEntries, stuck := none } ∧
      longEntries ⊆ longEntries ∧ writeBack longEntries longTable = longTable := by
  intro origin
  have small : headerSize + (mixedSources.flatMap (·.bytes)).length < 2 ^ 32 := by decide
  have walked : walk longTable = .ok { entries := longEntries, stuck := none } := by cbv
  have listed : longEntries ⊆ longEntries := List.Subset.refl _
  exact ⟨small, build_walk_roundTrip.1 origin 0xFEE00000 mixedSources small, walked, listed,
    build_walk_roundTrip.2 longTable _ walked longEntries listed⟩

end FirmwareTables.Madt
