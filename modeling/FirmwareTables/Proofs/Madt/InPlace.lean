import FirmwareTables.Proofs.Madt.Patched

set_option autoImplicit false

namespace FirmwareTables.Madt

theorem writeAt_within {offset : Nat} {bytes table : Bytes}
    (fits : offset + bytes.length ≤ table.length) :
    (writeAt offset bytes).Answers table.toArray () (Bytes.overwrite offset bytes table).toArray := by
  have ran : (writeAt offset bytes).run table.toArray =
      ⟨.ok (), Buffer.store offset bytes table.toArray, []⟩ := if_pos (by simpa using fits)
  refine ⟨by rw [ran], ?_⟩
  rw [ran, ← Buffer.toList_store (by simpa using fits)]

theorem writeAt_answers (front back : Bytes) {chunk bytes : Bytes}
    (fits : bytes.length ≤ chunk.length) :
    (writeAt front.length bytes).Answers (front ++ chunk ++ back).toArray ()
      (front ++ Bytes.overwrite 0 bytes chunk ++ back).toArray := by
  have stays : front.length + bytes.length ≤ (front ++ chunk ++ back).length := by
    simp only [List.length_append]
    omega
  have written := @Bytes.overwrite_append front chunk back bytes 0 (by omega)
  rw [← written]
  exact writeAt_within stays

theorem writeAt_encode_answers (front back : Bytes) {entry : Entry} {content : Structure}
    (fits : content.encode.length ≤ entry.bytes.length) :
    (writeAt front.length content.encode).Answers (front ++ entry.bytes ++ back).toArray ()
      (front ++ (entry.rewritten content).bytes ++ back).toArray :=
  writeAt_answers front back fits

-- Writing the type alone leaves the length byte that is there.
theorem writeAt_reserved_answers (front back : Bytes) {entry : Entry} {fields : IoApic}
    (decoded : entry.Decoded) (content : entry.content = .ioApic fields) :
    (writeAt front.length [reservedType]).Answers (front ++ entry.bytes ++ back).toArray ()
      (front ++ (entry.rewritten (.other reservedType fields.length)).bytes ++ back).toArray := by
  have two := decoded.1.two_le
  obtain ⟨rest, whole, _⟩ := decoded.front
  have same : Bytes.overwrite 0 [reservedType] entry.bytes =
      (entry.rewritten (.other reservedType fields.length)).bytes := by
    rw [Entry.rewritten, whole, content]
    rfl
  rw [← same]
  apply writeAt_answers
  rw [List.length_singleton]
  omega

def counted (platform : List IoApicInfo) (seen : List Entry) : PatchSummary where
  ioApics := seen.countP Entry.isIoApic
  reserved := seen.countP Entry.isIoApic - platform.length
  interruptOverrides := seen.countP Entry.isOverride
  x2ApicNmis := seen.countP Entry.isNmi

theorem counted_of_ioApic (platform : List IoApicInfo) (seen : List Entry) {entry : Entry}
    {fields : IoApic} (content : entry.content = .ioApic fields) :
    counted platform (seen ++ [entry]) =
      { counted platform seen with
        ioApics := seen.countP Entry.isIoApic + 1
        reserved := seen.countP Entry.isIoApic + 1 - platform.length } := by
  simp [counted, Entry.isIoApic, Entry.isOverride, Entry.isNmi, content, Structure.number,
    ioApicType, interruptOverrideType, localX2ApicNmiType]

theorem counted_of_override (platform : List IoApicInfo) (seen : List Entry) {entry : Entry}
    {fields : InterruptOverride} (content : entry.content = .interruptOverride fields) :
    counted platform (seen ++ [entry]) =
      { counted platform seen with
        interruptOverrides := seen.countP Entry.isOverride + 1 } := by
  simp [counted, Entry.isIoApic, Entry.isOverride, Entry.isNmi, content, Structure.number,
    ioApicType, interruptOverrideType, localX2ApicNmiType]

theorem counted_of_nmi (platform : List IoApicInfo) (seen : List Entry) {entry : Entry}
    {fields : LocalX2ApicNmi} (content : entry.content = .localX2ApicNmi fields) :
    counted platform (seen ++ [entry]) =
      { counted platform seen with x2ApicNmis := seen.countP Entry.isNmi + 1 } := by
  simp [counted, Entry.isIoApic, Entry.isOverride, Entry.isNmi, content, Structure.number,
    ioApicType, interruptOverrideType, localX2ApicNmiType]

theorem counted_of_localX2Apic (platform : List IoApicInfo) (seen : List Entry) {entry : Entry}
    {fields : LocalX2Apic} (content : entry.content = .localX2Apic fields) :
    counted platform (seen ++ [entry]) = counted platform seen := by
  simp [counted, Entry.isIoApic, Entry.isOverride, Entry.isNmi, content, Structure.number,
    ioApicType, interruptOverrideType, localX2ApicType, localX2ApicNmiType]

theorem counted_of_other (platform : List IoApicInfo) (seen : List Entry) {entry : Entry}
    (decoded : entry.Decoded) {number length : UInt8} (content : entry.content = .other number length) :
    counted platform (seen ++ [entry]) = counted platform seen := by
  have proper := (Structure.read_eq_some_iff.mp decoded.2).1
  rw [content] at proper
  simp [counted, Entry.isIoApic, Entry.isOverride, Entry.isNmi, content, Structure.number,
    proper.1, proper.2.1, proper.2.2.2]

theorem patchStructure_answers (platform : List IoApicInfo) (seen : List Entry) {entry : Entry}
    (decoded : entry.Decoded) (front back : Bytes) (place : entry.offset = front.length) :
    (patchStructure platform (counted platform seen) entry).Answers
      (front ++ entry.bytes ++ back).toArray (counted platform (seen ++ [entry]))
      (front ++ (entry.patched platform[seen.countP Entry.isIoApic]?).bytes ++ back).toArray := by
  have long := decoded.length_encode_le
  unfold patchStructure
  match content : entry.content with
  | .ioApic fields =>
    have turn : (counted platform seen).ioApics = seen.countP Entry.isIoApic := rfl
    rw [content] at long
    rw [counted_of_ioApic platform seen content]
    simp only [place, turn]
    match next : platform[seen.countP Entry.isIoApic]? with
    | some info =>
      have left := (List.getElem?_eq_some_iff.mp next).1
      have reserved : seen.countP Entry.isIoApic + 1 - platform.length =
          seen.countP Entry.isIoApic - platform.length := by omega
      rw [Entry.patched_of_ioApic content]
      refine Action.answers_bind.mpr ⟨(), _, writeAt_encode_answers front back long, ?_⟩
      simp [reserved, counted]
    | none =>
      have left := List.getElem?_eq_none_iff.mp next
      have reserved : seen.countP Entry.isIoApic + 1 - platform.length =
          seen.countP Entry.isIoApic - platform.length + 1 := by omega
      rw [Entry.patched_of_ioApic_none content]
      refine Action.answers_bind.mpr
        ⟨(), _, writeAt_reserved_answers front back decoded content, ?_⟩
      simp [reserved, counted]
  | .interruptOverride fields =>
    rw [content] at long
    rw [Entry.patched_of_override content, counted_of_override platform seen content]
    simp only [place]
    refine Action.answers_bind.mpr ⟨(), _, writeAt_encode_answers front back long, ?_⟩
    simp [counted]
  | .localX2ApicNmi fields =>
    rw [content] at long
    rw [Entry.patched_of_nmi content, counted_of_nmi platform seen content]
    simp only [place]
    refine Action.answers_bind.mpr ⟨(), _, writeAt_encode_answers front back long, ?_⟩
    simp [counted]
  | .localX2Apic fields =>
    rw [Entry.patched_of_localX2Apic content, counted_of_localX2Apic platform seen content]
    simp
  | .other number length =>
    rw [Entry.patched_of_other content, counted_of_other platform seen decoded content]
    simp

theorem patchStructures_answers (platform : List IoApicInfo) (seen : List Entry)
    {found : List Entry} (front back : Bytes) (tiled : Tiled front.length found) :
    (patchStructures platform (counted platform seen) found).Answers
      (front ++ area found ++ back).toArray (counted platform (seen ++ found))
      (front ++ area (patchedEntries platform (seen.countP Entry.isIoApic) [] found) ++
        back).toArray := by
  -- What is done stands in `front`. It grows by structures of the old lengths, so the places stay right.
  induction found generalizing seen front with
  | nil => simp [patchStructures, patchedEntries]
  | cons entry rest ih =>
    obtain ⟨place, decoded, later⟩ := tiled
    have first := patchStructure_answers platform seen decoded front (area rest ++ back) place
    have size := (decoded.alike_patched platform[seen.countP Entry.isIoApic]?).length
    have turn : (seen ++ [entry]).countP Entry.isIoApic =
        if entry.isIoApic then seen.countP Entry.isIoApic + 1 else seen.countP Entry.isIoApic := by
      cases kind : entry.isIoApic <;> simp [kind]
    have others := ih (seen ++ [entry])
      (front ++ (entry.patched platform[seen.countP Entry.isIoApic]?).bytes)
      (by rw [List.length_append, size]; exact later)
    rw [patchStructures, patchedEntries_of_nil, area_cons, area_cons]
    simp only [turn, List.append_assoc, List.singleton_append] at first others ⊢
    exact Action.answers_bind.mpr ⟨_, _, first, others⟩

theorem writeX2Apics_answers (platform : List IoApicInfo) (k : Nat) (ordered : List LocalX2Apic)
    {found : List Entry} (front back : Bytes) (tiled : Tiled front.length found) :
    (writeX2Apics ((found.filter (·.localX2Apic?.isSome)).map (·.offset)) ordered).Answers
      (front ++ area (patchedEntries platform k [] found) ++ back).toArray ()
      (front ++ area (patchedEntries platform k ordered found) ++ back).toArray := by
  induction found generalizing k ordered front with
  | nil => simp [writeX2Apics, patchedEntries]
  | cons entry rest ih =>
    obtain ⟨place, decoded, later⟩ := tiled
    -- Both lists are used up at x2APICs only.
    cases isX2Apic : entry.localX2Apic? with
    | none =>
      have others := ih (if entry.isIoApic then k + 1 else k) ordered
        (front ++ (entry.patched platform[k]?).bytes)
        (by rw [List.length_append, (decoded.alike_patched _).length]; exact later)
      rw [patchedEntries_of_none platform k rest ordered isX2Apic, patchedEntries_of_nil]
      simpa [isX2Apic] using others
    | some fields =>
      cases ordered with
      | nil => simp [writeX2Apics, isX2Apic]
      | cons next ordered =>
        have content := Entry.content_of_localX2Apic? isX2Apic
        have notIoApic : entry.isIoApic = false := by
          simp [Entry.isIoApic, content, Structure.number, ioApicType, localX2ApicType]
        have listed : (entry :: rest).filter (·.localX2Apic?.isSome) =
            entry :: rest.filter (·.localX2Apic?.isSome) := by simp [isX2Apic]
        have fits : (Structure.localX2Apic next).encode.length ≤ entry.bytes.length := by
          have long := decoded.length_encode_le
          rw [content] at long
          simpa [Structure.encode] using long
        have first := writeAt_encode_answers front
          (area (patchedEntries platform k [] rest) ++ back) fits
        have others := ih k ordered (front ++ (entry.rewritten (.localX2Apic next)).bytes)
          (by rw [List.length_append, Entry.length_rewritten fits]; exact later)
        rw [patchedEntries_of_some platform k rest next ordered isX2Apic, patchedEntries_of_nil,
          Entry.patched_of_localX2Apic content, listed, List.map_cons, place, notIoApic]
        simp only [area_cons, List.append_assoc, Bool.false_eq_true, if_false] at first others ⊢
        exact Action.answers_bind.mpr ⟨_, _, first, others⟩

theorem setRevision_answers {table : Bytes} (long : headerSize ≤ table.length) :
    setRevision.Answers table.toArray (TableHeader.lengthField table)
      (Bytes.overwrite revisionOffset [revision] table).toArray := by
  have enough : ¬table.toArray.size < headerSize := by simpa using long
  rw [setRevision, Action.answers_get_bind, if_neg enough]
  refine Action.answers_bind.mpr ⟨(), _, writeAt_within ?_, by simp⟩
  simp only [revisionOffset, headerSize, List.length_singleton] at long ⊢
  omega

theorem stampDeclared_answers {front : Bytes} (tail : Bytes)
    (long : Table.headerSize ≤ front.length) :
    (stampDeclared front.length).Answers (front ++ tail).toArray ()
      (Table.stampChecksum front ++ tail).toArray := by
  have stamped : (Table.updateChecksum ((front ++ tail).toArray.toList.take front.length)).mapError
      AcpiError.table = .ok (Table.stampChecksum front) := by
    rw [List.toList_toArray, List.take_left, Table.updateChecksum, if_neg (Nat.not_lt.mpr long)]
    rfl
  rw [stampDeclared, Action.answers_get_bind, Action.answers_ofExcept_bind stamped]
  simp

end FirmwareTables.Madt
