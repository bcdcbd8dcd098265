import FirmwareTables.Madt.Patch
import FirmwareTables.Proofs.Madt.Layout
import FirmwareTables.Proofs.Madt.Tiling

set_option autoImplicit false

namespace FirmwareTables.Madt

structure Framed (table : Bytes) : Prop where
  header : Table.headerSize ≤ table.length
  declared : Table.headerSize ≤ TableHeader.lengthField table
  fits : TableHeader.lengthField table ≤ table.length
  signature : table.take 4 = Table.madtSignature.bytes
  room : headerSize ≤ TableHeader.lengthField table

def IsStructure (piece : Bytes) : Prop :=
  ∃ number length rest, piece = number :: length :: rest ∧ length.toNat = piece.length ∧
    layoutSize number ≤ piece.length ∧ (number = localX2ApicType → piece.length = localX2ApicSize)

-- As long as it says and long enough for the layout of its type.
def Spans (piece : Bytes) : Prop :=
  ∃ number length rest, piece = number :: length :: rest ∧ length.toNat = piece.length ∧
    layoutSize number ≤ piece.length

theorem IsStructure.spans {piece : Bytes} (structured : IsStructure piece) : Spans piece := by
  obtain ⟨number, length, rest, whole, size, long, _⟩ := structured
  exact ⟨number, length, rest, whole, size, long⟩

structure WellFormed (table : Bytes) : Prop extends Framed table where
  tiled : ∃ pieces : List Bytes, (∀ piece ∈ pieces, IsStructure piece) ∧
    (table.take (TableHeader.lengthField table)).drop headerSize = pieces.flatten

theorem structureArea_of_header {table : Bytes} {header : TableHeader}
    (parsed : TableHeader.parse table = .ok header) {bytes : Bytes} :
    structureArea table = .ok bytes ↔
      header.signature = Table.madtSignature ∧ headerSize ≤ header.length.toNat ∧
        bytes = (table.take header.length.toNat).drop headerSize := by
  by_cases known : header.signature = Table.madtSignature
  · by_cases room : header.length.toNat < headerSize
    · have failed : structureArea table = .error (.tooShort headerSize header.length.toNat) := by
        simp [structureArea, parsed, known, room, bind, Except.bind, throw, throwThe,
          MonadExceptOf.throw]
      simp [failed, Nat.not_le_of_lt room]
    · have done : structureArea table = .ok ((table.take header.length.toNat).drop headerSize) := by
        simp [structureArea, parsed, known, room, bind, Except.bind, pure, Except.pure]
      simp [done, known, Nat.le_of_not_lt room, eq_comm]
  · have failed : structureArea table = .error (.unexpectedSignature header.signature) := by
      simp [structureArea, parsed, known, bind, Except.bind, throw, throwThe, MonadExceptOf.throw]
    simp [failed, known]

theorem Framed.exists_header {table : Bytes} (framed : Framed table) :
    ∃ header, TableHeader.parse table = .ok header ∧ header.signature = Table.madtSignature ∧
      header.length.toNat = TableHeader.lengthField table := by
  obtain ⟨header, rest, whole⟩ := TableHeader.exists_toBytes_append framed.header
  have length : header.length.toNat = TableHeader.lengthField table := by
    rw [whole, TableHeader.lengthField_toBytes_append]
  have signature : header.signature.bytes = Table.madtSignature.bytes := by
    rw [← framed.signature, whole, TableHeader.signature_bytes]
  have parsed := TableHeader.parse_eq_ok_iff.mpr
    ⟨⟨rest, whole⟩, length ▸ framed.declared, length ▸ framed.fits⟩
  refine ⟨header, parsed, ?_, length⟩
  cases found : header.signature
  simp_all [Table.madtSignature]

theorem framed_of_header {table : Bytes} {header : TableHeader}
    (parsed : TableHeader.parse table = .ok header)
    (known : header.signature = Table.madtSignature) (room : headerSize ≤ header.length.toNat) :
    Framed table ∧ header.length.toNat = TableHeader.lengthField table := by
  obtain ⟨⟨rest, whole⟩, declared, fits⟩ := TableHeader.parse_eq_ok_iff.mp parsed
  have length : header.length.toNat = TableHeader.lengthField table := by
    rw [whole, TableHeader.lengthField_toBytes_append]
  have signature : table.take 4 = header.signature.bytes := by
    rw [whole, TableHeader.signature_bytes]
  rw [length] at declared fits room
  exact ⟨⟨Nat.le_trans declared fits, declared, fits, by rw [signature, known], room⟩, length⟩

theorem structureArea_eq_ok_iff {table bytes : Bytes} :
    structureArea table = .ok bytes ↔
      Framed table ∧ bytes = (table.take (TableHeader.lengthField table)).drop headerSize := by
  constructor
  · intro located
    obtain ⟨header, parsed, _⟩ := Action.bind_eq_ok.mp located
    obtain ⟨known, room, same⟩ := (structureArea_of_header parsed).mp located
    obtain ⟨framed, length⟩ := framed_of_header parsed known room
    exact ⟨framed, length ▸ same⟩
  · rintro ⟨framed, same⟩
    obtain ⟨header, parsed, known, length⟩ := framed.exists_header
    exact (structureArea_of_header parsed).mpr ⟨known, length ▸ framed.room, length ▸ same⟩

theorem entries_eq_ok_iff {table : Bytes} {found : List Entry} :
    entries table = .ok found ↔
      Framed table ∧ Tiled headerSize found ∧
        area found = (table.take (TableHeader.lengthField table)).drop headerSize := by
  match located : structureArea table with
  | .error e =>
    have failed : entries table = .error e := by
      simp [entries, walk, located, bind, Except.bind]
    rw [failed]
    refine iff_of_false (by simp) ?_
    rintro ⟨framed, _⟩
    have again := structureArea_eq_ok_iff.mpr ⟨framed, rfl⟩
    rw [located] at again
    cases again
  | .ok bytes =>
    obtain ⟨framed, rfl⟩ := structureArea_eq_ok_iff.mp located
    have step := walkFrom_eq_iff headerSize
      ((table.take (TableHeader.lengthField table)).drop headerSize) found
    rw [and_iff_right framed, ← step]
    match walked : walkFrom headerSize
        ((table.take (TableHeader.lengthField table)).drop headerSize) with
    | ⟨items, none⟩ =>
      simp [entries, walk, located, walked, bind, Except.bind, pure, Except.pure]
    | ⟨items, some offset⟩ =>
      simp [entries, walk, located, walked, bind, Except.bind, pure, Except.pure, throw, throwThe,
        MonadExceptOf.throw]

theorem patchableEntries_eq_ok_iff {table : Bytes} {found : List Entry} :
    patchableEntries table = .ok found ↔
      entries table = .ok found ∧ ∀ entry ∈ found, entry.isOddX2Apic = false := by
  match walked : entries table with
  | .error e => simp [patchableEntries, walked, bind, Except.bind]
  | .ok items =>
    match odd : items.find? (·.isOddX2Apic) with
    | some entry =>
      have isOdd := List.find?_some odd
      have member := List.mem_of_find?_eq_some odd
      simp only [patchableEntries, walked, odd, bind, Except.bind, throw, throwThe,
        MonadExceptOf.throw, reduceCtorEq, false_iff]
      rintro ⟨⟨⟩, even⟩
      rw [even entry member] at isOdd
      cases isOdd
    | none =>
      have even := List.find?_eq_none.mp odd
      simp only [patchableEntries, walked, odd, bind, Except.bind, pure, Except.pure]
      constructor
      · rintro ⟨⟩
        exact ⟨rfl, fun entry member => by simpa using even entry member⟩
      · exact fun h => h.1

theorem Entry.Decoded.front {entry : Entry} (decoded : entry.Decoded) :
    ∃ rest, entry.bytes = entry.content.number :: entry.content.lengthByte :: rest ∧
      entry.content.lengthByte.toNat = entry.bytes.length := by
  obtain ⟨⟨number, length, rest, whole, size⟩, read⟩ := decoded
  obtain ⟨_, back, layout⟩ := Structure.read_eq_some_iff.mp read
  obtain ⟨fields, front⟩ := entry.content.encode_front
  rw [front, whole] at layout
  simp only [List.cons_append, List.cons.injEq] at layout
  obtain ⟨rfl, rfl, _⟩ := layout
  exact ⟨rest, whole, size⟩

theorem Entry.Decoded.isOddX2Apic_iff {entry : Entry} (decoded : entry.Decoded) :
    entry.isOddX2Apic = false ↔
      (entry.content.number = localX2ApicType → entry.bytes.length = localX2ApicSize) := by
  obtain ⟨_, _, size⟩ := decoded.front
  have proper := (Structure.read_eq_some_iff.mp decoded.2).1
  unfold Entry.isOddX2Apic
  match content : entry.content with
  | .ioApic _ => simp [Structure.number, ioApicType, localX2ApicType]
  | .interruptOverride _ => simp [Structure.number, interruptOverrideType, localX2ApicType]
  | .localX2ApicNmi _ => simp [Structure.number, localX2ApicNmiType, localX2ApicType]
  | .localX2Apic fields =>
    rw [content] at size
    simp only [Structure.lengthByte] at size
    simp [Structure.number, size]
  | .other number _ =>
    rw [content] at proper
    simp [Structure.number, proper.2.2.1]

theorem Entry.Decoded.layoutSize_le {entry : Entry} (decoded : entry.Decoded) :
    layoutSize entry.content.number ≤ entry.bytes.length := by
  obtain ⟨rest, whole, _⟩ := decoded.front
  have read := decoded.2
  rw [whole] at read ⊢
  exact Structure.layoutSize_le_of_read read

theorem Entry.Decoded.spans {entry : Entry} (decoded : entry.Decoded) : Spans entry.bytes := by
  obtain ⟨rest, whole, size⟩ := decoded.front
  exact ⟨_, _, rest, whole, size, decoded.layoutSize_le⟩

theorem Entry.Decoded.isStructure {entry : Entry} (decoded : entry.Decoded)
    (even : entry.isOddX2Apic = false) : IsStructure entry.bytes := by
  obtain ⟨rest, whole, size⟩ := decoded.front
  exact ⟨_, _, rest, whole, size, decoded.layoutSize_le, decoded.isOddX2Apic_iff.mp even⟩

theorem Spans.exists_entry {piece : Bytes} (spans : Spans piece) (offset : Nat) :
    ∃ content, Entry.Decoded { offset, content, bytes := piece } := by
  obtain ⟨number, length, rest, rfl, size, long⟩ := spans
  obtain ⟨content, back, proper, _, whole⟩ := Structure.exists_encode_append long
  exact ⟨content, ⟨number, length, rest, rfl, size⟩,
    Structure.read_eq_some_iff.mpr ⟨proper, back, whole⟩⟩

theorem Entry.Decoded.even {entry : Entry} (decoded : entry.Decoded)
    (structured : IsStructure entry.bytes) : entry.isOddX2Apic = false := by
  obtain ⟨_, whole, _⟩ := decoded.front
  obtain ⟨number, length, rest, again, _, _, exact16⟩ := structured
  have number_eq : number = entry.content.number := by
    rw [again] at whole
    exact (List.cons.inj whole).1
  rw [decoded.isOddX2Apic_iff, ← number_eq]
  exact exact16

theorem exists_tiled {pieces : List Bytes} (spans : ∀ piece ∈ pieces, Spans piece) (offset : Nat) :
    ∃ found, Tiled offset found ∧ found.map (·.bytes) = pieces := by
  induction pieces generalizing offset with
  | nil => exact ⟨[], trivial, rfl⟩
  | cons piece rest ih =>
    obtain ⟨content, decoded⟩ := (spans piece (by simp)).exists_entry offset
    obtain ⟨found, tiled, same⟩ :=
      ih (fun other member => spans other (by simp [member])) (offset + piece.length)
    exact ⟨{ offset, content, bytes := piece } :: found, ⟨rfl, decoded, tiled⟩, by simp [same]⟩

theorem area_eq (found : List Entry) : area found = (found.map (·.bytes)).flatten := by
  rw [area, List.flatMap_def]

theorem Tiled.decoded {offset : Nat} {found : List Entry} (tiled : Tiled offset found) :
    ∀ entry ∈ found, entry.Decoded := by
  induction found generalizing offset with
  | nil => simp
  | cons head rest ih =>
    intro entry member
    rcases List.mem_cons.mp member with rfl | later
    · exact tiled.2.1
    · exact ih tiled.2.2 entry later

theorem wellFormed_iff {table : Bytes} :
    WellFormed table ↔ ∃ found, patchableEntries table = .ok found := by
  constructor
  · rintro ⟨framed, pieces, structures, covers⟩
    obtain ⟨found, tiled, same⟩ :=
      exists_tiled (fun piece member => (structures piece member).spans) headerSize
    have whole : area found = (table.take (TableHeader.lengthField table)).drop headerSize := by
      rw [area_eq, same, covers]
    refine ⟨found, patchableEntries_eq_ok_iff.mpr ⟨entries_eq_ok_iff.mpr ⟨framed, tiled, whole⟩, ?_⟩⟩
    intro entry member
    have listed : entry.bytes ∈ pieces := by
      rw [← same]
      exact List.mem_map_of_mem member
    exact (tiled.decoded entry member).even (structures entry.bytes listed)
  · rintro ⟨found, patchable⟩
    obtain ⟨walked, even⟩ := patchableEntries_eq_ok_iff.mp patchable
    obtain ⟨framed, tiled, whole⟩ := entries_eq_ok_iff.mp walked
    refine ⟨framed, found.map (·.bytes), ?_, ?_⟩
    · intro piece member
      obtain ⟨entry, inFound, rfl⟩ := List.mem_map.mp member
      exact (tiled.decoded entry inFound).isStructure (even entry inFound)
    · rw [← whole, area_eq]

end FirmwareTables.Madt
