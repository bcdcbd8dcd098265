import FirmwareTables.Proofs.Madt.Outcomes

set_option autoImplicit false

namespace FirmwareTables.Madt

namespace Entry

def slice (entry : Entry) (table : Bytes) : Bytes :=
  (table.drop entry.offset).take entry.bytes.length

/-- The bytes of the structure with the few that a patch changes: identifier, address and interrupt
base of an IOAPIC, the type of one that is left over, the flags of an override or an NMI. -/
def patchedBytes (next : Option IoApicInfo) (entry : Entry) : Bytes :=
  match entry.content, next with
  | .ioApic _, some info =>
    Bytes.overwrite 2 [info.id] (Bytes.overwrite 4 (Bytes.word32 info.address)
      (Bytes.overwrite 8 (Bytes.word32 info.gsiBase) entry.bytes))
  | .ioApic _, none => Bytes.overwrite 0 [0x7F] entry.bytes
  | .interruptOverride _, _ => Bytes.overwrite 8 [0x0F, 0x00] entry.bytes
  | .localX2ApicNmi _, _ => Bytes.overwrite 2 [0x05, 0x00] entry.bytes
  | _, _ => entry.bytes

theorem bytes_patched_ioApic {entry : Entry} {fields : IoApic} (decoded : entry.Decoded)
    (content : entry.content = .ioApic fields) (info : IoApicInfo) :
    (entry.patched (some info)).bytes = entry.patchedBytes (some info) := by
  obtain ⟨rest, whole⟩ := decoded.bytes_eq
  obtain ⟨a0, a1, a2, a3, address⟩ := Structure.word32_bytes fields.address
  obtain ⟨g0, g1, g2, g3, gsi⟩ := Structure.word32_bytes fields.gsiBase
  obtain ⟨b0, b1, b2, b3, newAddress⟩ := Structure.word32_bytes info.address
  obtain ⟨h0, h1, h2, h3, newGsi⟩ := Structure.word32_bytes info.gsiBase
  rw [patched_of_ioApic content]
  simp only [rewritten, patchedBytes, content, whole, Structure.encode, address, gsi, newAddress,
    newGsi]
  simp [Bytes.overwrite]

theorem bytes_patched_left_over {entry : Entry} {fields : IoApic} (decoded : entry.Decoded)
    (content : entry.content = .ioApic fields) :
    (entry.patched none).bytes = entry.patchedBytes none := by
  obtain ⟨rest, whole⟩ := decoded.bytes_eq
  rw [patched_of_ioApic_none content]
  simp only [rewritten, patchedBytes, content, whole, Structure.encode]
  rfl

theorem bytes_patched_override {entry : Entry} {fields : InterruptOverride}
    (decoded : entry.Decoded) (content : entry.content = .interruptOverride fields)
    (next : Option IoApicInfo) : (entry.patched next).bytes = entry.patchedBytes next := by
  obtain ⟨rest, whole⟩ := decoded.bytes_eq
  obtain ⟨g0, g1, g2, g3, gsi⟩ := Structure.word32_bytes fields.gsi
  obtain ⟨f0, f1, flags⟩ := Structure.word16_bytes fields.flags
  have newFlags : Bytes.word16 overrideFlags = [0x0F, 0x00] := rfl
  rw [patched_of_override content]
  simp only [rewritten, patchedBytes, content, whole, Structure.encode, gsi, flags, newFlags]
  simp [Bytes.overwrite]

theorem bytes_patched_nmi {entry : Entry} {fields : LocalX2ApicNmi} (decoded : entry.Decoded)
    (content : entry.content = .localX2ApicNmi fields) (next : Option IoApicInfo) :
    (entry.patched next).bytes = entry.patchedBytes next := by
  obtain ⟨rest, whole⟩ := decoded.bytes_eq
  obtain ⟨f0, f1, flags⟩ := Structure.word16_bytes fields.flags
  obtain ⟨u0, u1, u2, u3, uid⟩ := Structure.word32_bytes fields.uid
  have newFlags : Bytes.word16 nmiFlags = [0x05, 0x00] := rfl
  rw [patched_of_nmi content]
  simp only [rewritten, patchedBytes, content, whole, Structure.encode, flags, uid, newFlags]
  simp [Bytes.overwrite]

theorem bytes_patched {entry : Entry} (decoded : entry.Decoded) (next : Option IoApicInfo) :
    (entry.patched next).bytes = entry.patchedBytes next := by
  match content : entry.content, next with
  | .ioApic fields, some info => exact bytes_patched_ioApic decoded content info
  | .ioApic fields, none => exact bytes_patched_left_over decoded content
  | .interruptOverride fields, next => exact bytes_patched_override decoded content next
  | .localX2ApicNmi fields, next => exact bytes_patched_nmi decoded content next
  | .localX2Apic fields, next =>
    rw [patched_of_localX2Apic content]
    simp only [patchedBytes, content]
  | .other number length, next =>
    rw [patched_of_other content]
    simp only [patchedBytes, content]

end Entry

theorem Tiled.slice_eq {found : List Entry} (front back : Bytes) (tiled : Tiled front.length found) :
    ∀ entry ∈ found, entry.slice (front ++ area found ++ back) = entry.bytes := by
  induction found generalizing front with
  | nil => simp
  | cons head rest ih =>
    obtain ⟨place, decoded, later⟩ := tiled
    intro entry member
    rcases List.mem_cons.mp member with rfl | member
    · simp [Entry.slice, place]
    · have others := ih (front ++ head.bytes) (by rw [List.length_append]; exact later) entry member
      simpa [List.append_assoc] using others

theorem Tiled.of_alike {offset : Nat} {found patched : List Entry} (tiled : Tiled offset found)
    (alike : List.Forall₂ Entry.Alike found patched) : Tiled offset patched := by
  induction alike generalizing offset with
  | nil => trivial
  | cons same _ ih =>
    obtain ⟨place, decoded, later⟩ := tiled
    refine ⟨same.offset.trans place, same.decoded, ?_⟩
    rw [same.length]
    exact ih later

theorem map_place_of_alike {found patched : List Entry}
    (alike : List.Forall₂ Entry.Alike found patched) :
    patched.map (fun entry => (entry.offset, entry.bytes.length)) =
      found.map (fun entry => (entry.offset, entry.bytes.length)) := by
  induction alike with
  | nil => rfl
  | cons same _ ih => rw [List.map_cons, List.map_cons, ih, same.offset, same.length]

theorem length_area (found : List Entry) : (area found).length = (found.map (·.bytes.length)).sum := by
  simp [area, List.length_flatMap]

theorem take_drop_congr (before after : Bytes) (start count : Nat)
    (same : ∀ i, start ≤ i → i < start + count → after[i]? = before[i]?) :
    (after.drop start).take count = (before.drop start).take count := by
  apply List.ext_getElem?
  intro i
  rw [List.getElem?_take, List.getElem?_take, List.getElem?_drop, List.getElem?_drop]
  split
  · exact same _ (by omega) (by omega)
  · rfl

structure Reheaded (before after : Bytes) : Prop where
  revision : after[revisionOffset]? = some revision
  others : ∀ i < headerSize, i ≠ revisionOffset → i ≠ Table.checksumOffset →
    after[i]? = before[i]?

theorem Reheaded.lengthField_eq {before after : Bytes} (reheaded : Reheaded before after) :
    TableHeader.lengthField after = TableHeader.lengthField before := by
  have same := take_drop_congr before after 4 4 fun i _ within =>
    reheaded.others i (by simp only [headerSize]; omega) (by simp only [revisionOffset]; omega)
      (by simp only [Table.checksumOffset]; omega)
  rw [TableHeader.lengthField, same, TableHeader.lengthField]

theorem Reheaded.signature_eq {before after : Bytes} (reheaded : Reheaded before after) :
    after.take 4 = before.take 4 := by
  have same := take_drop_congr before after 0 4 fun i _ within =>
    reheaded.others i (by simp only [headerSize]; omega) (by simp only [revisionOffset]; omega)
      (by simp only [Table.checksumOffset]; omega)
  simpa using same

theorem exists_header (platform : List IoApicInfo) (ordered : List LocalX2Apic) {table : Bytes}
    {found : List Entry} (ready : Patchable table found) :
    ∃ header, header.length = headerSize ∧
      patchedTable platform ordered found table =
        header ++ area (patchedEntries platform 0 ordered found) ++
          table.drop (TableHeader.lengthField table) ∧
      Reheaded table (patchedTable platform ordered found table) := by
  have long := ready.framed.long
  have width := length_revisedHeader long
  obtain ⟨header, stamped, length, others⟩ := Table.exists_stamped_header
    (area (patchedEntries platform 0 ordered found))
    (show Table.checksumOffset < (revisedHeader table).length by rw [width]; decide)
  rw [width] at length
  have whole : patchedTable platform ordered found table =
      header ++ area (patchedEntries platform 0 ordered found) ++
        table.drop (TableHeader.lengthField table) := by
    rw [patchedTable, stamped]
  have byte (i : Nat) (within : i < headerSize) (other : i ≠ Table.checksumOffset) :
      (patchedTable platform ordered found table)[i]? =
        ((table.take headerSize).set revisionOffset revision)[i]? := by
    rw [whole, List.append_assoc, List.getElem?_append_left (by rw [length]; exact within),
      others i other, revisedHeader, Bytes.overwrite_singleton]
    rw [List.length_take, Nat.min_eq_left long]
    decide
  refine ⟨header, length, whole, ?_, ?_⟩
  · rw [byte revisionOffset (by decide) (by decide), List.getElem?_set_self]
    rw [List.length_take, Nat.min_eq_left long]
    decide
  · intro i within notRevision notChecksum
    rw [byte i within notChecksum, List.getElem?_set_ne notRevision.symm,
      List.getElem?_take_of_lt within]

section Patched

variable {platform : List IoApicInfo} {collation : Collation} {table : Bytes} {found : List Entry}
  {ordered : List LocalX2Apic}

theorem length_patchedTable (ready : Patchable table found)
    (alike : List.Forall₂ Entry.Alike found (patchedEntries platform 0 ordered found)) :
    (patchedTable platform ordered found table).length = table.length := by
  have fits := ready.framed.fits
  rw [patchedTable, List.length_append, Table.length_stampChecksum, ready.length_patched alike,
    List.length_drop]
  omega

theorem take_patchedTable (ready : Patchable table found)
    (alike : List.Forall₂ Entry.Alike found (patchedEntries platform 0 ordered found)) :
    (patchedTable platform ordered found table).take (TableHeader.lengthField table) =
      Table.stampChecksum
        (revisedHeader table ++ area (patchedEntries platform 0 ordered found)) := by
  rw [patchedTable, List.take_left']
  rw [Table.length_stampChecksum, ready.length_patched alike]

theorem drop_patchedTable (ready : Patchable table found)
    (alike : List.Forall₂ Entry.Alike found (patchedEntries platform 0 ordered found)) :
    (patchedTable platform ordered found table).drop (TableHeader.lengthField table) =
      table.drop (TableHeader.lengthField table) := by
  rw [patchedTable, List.drop_left']
  rw [Table.length_stampChecksum, ready.length_patched alike]

theorem entries_patchedTable (ready : Patchable table found)
    (alike : List.Forall₂ Entry.Alike found (patchedEntries platform 0 ordered found)) :
    entries (patchedTable platform ordered found table) =
      .ok (patchedEntries platform 0 ordered found) := by
  obtain ⟨header, width, whole, reheaded⟩ := exists_header platform ordered ready
  have framed := ready.framed
  have size := length_patchedTable ready alike
  refine entries_eq_ok_iff.mpr ⟨⟨?_, ?_, ?_, ?_, ?_⟩, ready.tiled.of_alike alike, ?_⟩
  · rw [size]
    exact framed.header
  · rw [reheaded.lengthField_eq]
    exact framed.declared
  · rw [reheaded.lengthField_eq, size]
    exact framed.fits
  · rw [reheaded.signature_eq]
    exact framed.signature
  · rw [reheaded.lengthField_eq]
    exact framed.room
  · have declared := ready.length_area
    rw [reheaded.lengthField_eq, whole, List.take_left', List.drop_left' width]
    rw [List.length_append, width, length_area_of_alike alike, declared]

end Patched

def summaryOf (platform : List IoApicInfo) (found : List Entry) : PatchSummary where
  ioApics := found.countP Entry.isIoApic
  reserved := found.countP Entry.isIoApic - platform.length
  interruptOverrides := found.countP Entry.isOverride
  x2ApicNmis := found.countP Entry.isNmi
  x2Apics := found.countP Entry.isX2Apic

structure Patch (platform : List IoApicInfo) (before after : Bytes) (summary : PatchSummary) :
    Prop where
  length : after.length = before.length
  declared : TableHeader.lengthField after = TableHeader.lengthField before
  tail : after.drop (TableHeader.lengthField before) = before.drop (TableHeader.lengthField before)
  checksum : Table.byteSum (after.take (TableHeader.lengthField before)) = 0
  header : Reheaded before after
  structures : ∃ found found',
    entries before = .ok found ∧ entries after = .ok found' ∧
    found'.map (fun entry => (entry.offset, entry.bytes.length)) =
      found.map (fun entry => (entry.offset, entry.bytes.length)) ∧
    headerSize + (found'.map (·.bytes.length)).sum = TableHeader.lengthField after ∧
    (∀ i (inside : i < found.length), found[i].isX2Apic = true ∨
      found[i].slice after =
        found[i].patchedBytes platform[(found.take i).countP Entry.isIoApic]?) ∧
    (∀ entry ∈ found, entry.slice before = entry.bytes) ∧
    summary = summaryOf platform found

theorem summary_eq {platform : List IoApicInfo} {collation : Collation} {table : Bytes}
    {found : List Entry} {ordered : List LocalX2Apic} (ready : Patchable table found)
    (collated : collation.collate (found.filterMap Entry.localX2Apic?) = .ok ordered) :
    { counted platform found with x2Apics := ordered.length } = summaryOf platform found := by
  have counts : ordered.length = found.countP Entry.isX2Apic := by
    rw [Collation.length_of_collate collated, List.length_filterMap_eq_countP]
    apply List.countP_congr
    intro entry member
    rw [(ready.tiled.decoded entry member).isX2Apic_eq]
  rw [counts]
  rfl

theorem patch_patchedTable {platform : List IoApicInfo} {collation : Collation} {table : Bytes}
    {found : List Entry} {ordered : List LocalX2Apic} (ready : Patchable table found)
    (walked : entries table = .ok found)
    (collated : collation.collate (found.filterMap Entry.localX2Apic?) = .ok ordered) :
    Patch platform table (patchedTable platform ordered found table)
      { counted platform found with x2Apics := ordered.length } := by
  have alike := ready.alike platform collated
  obtain ⟨header, width, whole, reheaded⟩ := exists_header platform ordered ready
  have tiled := ready.tiled.of_alike alike
  refine {
    length := length_patchedTable ready alike
    declared := reheaded.lengthField_eq
    tail := drop_patchedTable ready alike
    checksum := ?_
    header := reheaded
    structures := ⟨found, _, walked, entries_patchedTable ready alike, map_place_of_alike alike,
      ?_, ?_, ?_, summary_eq ready collated⟩ }
  · rw [take_patchedTable ready alike, Table.byteSum_stampChecksum]
    rw [ready.length_patched alike]
    exact Nat.lt_of_lt_of_le (by decide) ready.framed.declared
  · rw [← length_area, length_area_of_alike alike, ready.length_area, reheaded.lengthField_eq]
  · intro i inside
    have decoded := ready.tiled.decoded found[i] (List.getElem_mem inside)
    cases kind : found[i].isX2Apic with
    | true => exact Or.inl rfl
    | false =>
      rw [decoded.isX2Apic_eq, Option.isSome_eq_false_iff, Option.isNone_iff_eq_none] at kind
      have now := getElem?_patchedEntries platform 0 ordered found i inside kind
      rw [Nat.zero_add] at now
      have same := decoded.alike_patched platform[(found.take i).countP Entry.isIoApic]?
      have slices := Tiled.slice_eq header (table.drop (TableHeader.lengthField table))
        (width ▸ tiled) _ (List.mem_of_getElem? now)
      rw [← whole, Entry.slice, same.offset, same.length, Entry.bytes_patched decoded] at slices
      exact Or.inr slices
  · intro entry member
    have placed : Tiled (table.take headerSize).length found := by
      rw [List.length_take, Nat.min_eq_left ready.framed.long]
      exact ready.tiled
    -- The same cut of the table before, with its own header in front.
    have slices := Tiled.slice_eq (table.take headerSize)
      (table.drop (TableHeader.lengthField table)) placed
    rw [← ready.split] at slices
    exact slices entry member

theorem patchInPlace_patch (soc : Soc) (collation : Collation) (work : Workspace)
    (summary : PatchSummary)
    (done : ((patchInPlace soc collation).run work).result = .ok (some summary)) :
    ∃ platform, answered soc work = .ok platform ∧
      Patch platform work.table ((patchInPlace soc collation).run work).state.table summary := by
  obtain ⟨platform, found, ordered, answer, patchable, collated, rfl, table⟩ :=
    exists_patchedTable ⟨done, rfl⟩
  have walked := (patchableEntries_eq_ok_iff.mp patchable).1
  refine ⟨platform, answer, ?_⟩
  rw [table]
  exact patch_patchedTable (patchable_of_ok patchable) walked collated

-- Two IOAPICs, one of them longer than its layout, around two x2APICs and an override; then an NMI,
-- a structure of no known type, and a byte that is not part of the table.
def mixedTable : Bytes :=
  Table.madtSignature.bytes ++ Bytes.word32 126 ++ List.replicate 36 0 ++
    (Structure.ioApic { id := 1, address := 2, gsiBase := 3 }).encode ++
    (Structure.localX2Apic { id := 1, flags := 1, uid := 9 }).encode ++
    (Structure.ioApic { length := 14, id := 1, address := 2, gsiBase := 3 }).encode ++ [0xAA, 0xBB] ++
    (Structure.interruptOverride { source := 0, gsi := 2, flags := 0 }).encode ++
    (Structure.localX2Apic { id := 0, flags := 1, uid := 9 }).encode ++
    (Structure.localX2ApicNmi { flags := 0, uid := 0xFFFFFFFF, lint := 1 }).encode ++
    [0x20, 0x02] ++ [0xFF]

theorem patchInPlace_patch_mixedTable :
    let soc : Soc := .fixed (.ok [{ id := 7, address := 0xFEC00000, gsiBase := 24 }])
    let collation : Collation := ⟨.ofReports [(.smt, 1)], .turin, false⟩
    let out := (patchInPlace soc collation).run ⟨mixedTable, {}⟩
    let summary : PatchSummary :=
      { ioApics := 2, reserved := 1, interruptOverrides := 1, x2ApicNmis := 1, x2Apics := 2 }
    out.result = .ok (some summary) ∧
      ∃ platform, answered soc ⟨mixedTable, {}⟩ = .ok platform ∧
        Patch platform mixedTable out.state.table summary := by
  intro soc collation out summary
  have done : out.result = .ok (some summary) := by cbv
  exact ⟨done, patchInPlace_patch soc collation ⟨mixedTable, {}⟩ summary done⟩

end FirmwareTables.Madt
