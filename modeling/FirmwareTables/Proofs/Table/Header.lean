import FirmwareTables.Proofs.Bytes.LittleEndian
import FirmwareTables.Table.Basic

set_option autoImplicit false

namespace FirmwareTables

theorem FixedBytes.exists_append (n : Nat) (bytes : Bytes) (long : n ≤ bytes.length) :
    ∃ (field : FixedBytes n) (rest : Bytes),
      bytes = field.bytes ++ rest ∧ rest.length = bytes.length - n := by
  refine ⟨⟨bytes.take n, ?_⟩, bytes.drop n, ?_, ?_⟩
  · rw [List.length_take]
    omega
  · exact (List.take_append_drop n bytes).symm
  · exact List.length_drop

theorem FixedBytes.length_of_read {n : Nat} {bytes rest : Bytes} {field : FixedBytes n}
    (found : read n bytes = some (field, rest)) : bytes.length = n + rest.length := by
  unfold read at found
  split at found
  · rename_i long
    cases found
    rw [List.length_drop]
    omega
  · cases found

theorem Bytes.exists_cons (bytes : Bytes) (long : 1 ≤ bytes.length) :
    ∃ (b : UInt8) (rest : Bytes), bytes = b :: rest ∧ rest.length = bytes.length - 1 := by
  cases bytes with
  | nil => simp at long
  | cons b rest => exact ⟨b, rest, rfl, by simp⟩

theorem Bytes.exists_word16_append (bytes : Bytes) (long : 2 ≤ bytes.length) :
    ∃ (w : UInt16) (rest : Bytes), bytes = word16 w ++ rest ∧ rest.length = bytes.length - 2 := by
  obtain ⟨field, rest, whole, size⟩ := FixedBytes.exists_append _ bytes long
  refine ⟨toWord16 field.bytes, rest, ?_, size⟩
  rw [word16_toWord16 field.length_eq]
  exact whole

theorem Bytes.exists_word32_append (bytes : Bytes) (long : 4 ≤ bytes.length) :
    ∃ (w : UInt32) (rest : Bytes), bytes = word32 w ++ rest ∧ rest.length = bytes.length - 4 := by
  obtain ⟨field, rest, whole, size⟩ := FixedBytes.exists_append _ bytes long
  refine ⟨toWord32 field.bytes, rest, ?_, size⟩
  rw [word32_toWord32 field.length_eq]
  exact whole

namespace TableHeader

theorem read_toBytes_append (header : TableHeader) (rest : Bytes) :
    read (header.toBytes ++ rest) = some header := by
  have four (w : UInt32) (back : Bytes) :
      FixedBytes.read 4 (Bytes.word32 w ++ back) = some (⟨Bytes.word32 w, by simp⟩, back) :=
    FixedBytes.read_append ⟨Bytes.word32 w, by simp⟩ back
  have one (b : UInt8) (back : Bytes) :
      FixedBytes.read 1 (b :: back) = some (⟨[b], rfl⟩, back) :=
    FixedBytes.read_append ⟨[b], rfl⟩ back
  have byte (b : UInt8) : UInt8.ofNat (Bytes.ofLittleEndian [b]) = b := by
    simp [Bytes.ofLittleEndian]
  unfold read toBytes
  simp only [List.append_assoc, List.cons_append, List.nil_append, FixedBytes.read_append, four,
    one, byte, Option.bind_eq_bind, Option.bind_some, Bytes.toWord32_word32]
  rfl

theorem exists_toBytes_append {bytes : Bytes} (long : Table.headerSize ≤ bytes.length) :
    ∃ (header : TableHeader) (rest : Bytes), bytes = header.toBytes ++ rest := by
  unfold Table.headerSize at long
  obtain ⟨signature, r1, e1, l1⟩ := FixedBytes.exists_append 4 bytes (by omega)
  obtain ⟨length, r2, e2, l2⟩ := Bytes.exists_word32_append r1 (by omega)
  obtain ⟨revision, r3, e3, l3⟩ := Bytes.exists_cons r2 (by omega)
  obtain ⟨checksum, r4, e4, l4⟩ := Bytes.exists_cons r3 (by omega)
  obtain ⟨oemId, r5, e5, l5⟩ := FixedBytes.exists_append 6 r4 (by omega)
  obtain ⟨oemTableId, r6, e6, l6⟩ := FixedBytes.exists_append 8 r5 (by omega)
  obtain ⟨oemRevision, r7, e7, l7⟩ := Bytes.exists_word32_append r6 (by omega)
  obtain ⟨creatorId, r8, e8, l8⟩ := FixedBytes.exists_append 4 r7 (by omega)
  obtain ⟨creatorRevision, r9, e9, l9⟩ := Bytes.exists_word32_append r8 (by omega)
  refine ⟨⟨signature, length, revision, checksum, oemId, oemTableId, oemRevision, creatorId,
    creatorRevision⟩, r9, ?_⟩
  rw [e1, e2, e3, e4, e5, e6, e7, e8, e9]
  simp [toBytes]

theorem signature_bytes (header : TableHeader) (rest : Bytes) :
    (header.toBytes ++ rest).take 4 = header.signature.bytes := by
  simp only [toBytes, List.append_assoc]
  rw [List.take_append_of_le_length (by simp), List.take_of_length_le (by simp)]

theorem lengthField_toBytes_append (header : TableHeader) (rest : Bytes) :
    lengthField (header.toBytes ++ rest) = header.length.toNat := by
  have field : ((header.toBytes ++ rest).drop 4).take 4 = Bytes.word32 header.length := by
    simp only [toBytes, List.append_assoc]
    rw [List.drop_append_of_le_length (by simp), List.drop_of_length_le (by simp), List.nil_append,
      List.take_append_of_le_length (by simp), List.take_of_length_le (by simp)]
  have small := header.length.toNat_lt
  rw [lengthField, field, Bytes.word32, Bytes.ofLittleEndian_littleEndian]
  omega

theorem length_of_read {bytes : Bytes} {header : TableHeader} (found : read bytes = some header) :
    Table.headerSize ≤ bytes.length := by
  simp only [read, Option.bind_eq_bind, Option.bind_eq_some_iff, Prod.exists] at found
  obtain ⟨_, _, h1, _, _, h2, _, _, h3, _, _, h4, _, _, h5, _, _, h6, _, _, h7, _, _, h8, _, _, h9,
    _⟩ := found
  have l1 := FixedBytes.length_of_read h1
  have l2 := FixedBytes.length_of_read h2
  have l3 := FixedBytes.length_of_read h3
  have l4 := FixedBytes.length_of_read h4
  have l5 := FixedBytes.length_of_read h5
  have l6 := FixedBytes.length_of_read h6
  have l7 := FixedBytes.length_of_read h7
  have l8 := FixedBytes.length_of_read h8
  have l9 := FixedBytes.length_of_read h9
  unfold Table.headerSize
  omega

theorem parse_eq_ok_iff {bytes : Bytes} {header : TableHeader} :
    parse bytes = .ok header ↔
      (∃ rest, bytes = header.toBytes ++ rest) ∧ Table.headerSize ≤ header.length.toNat ∧
        header.length.toNat ≤ bytes.length := by
  unfold parse
  by_cases long : Table.headerSize ≤ bytes.length
  · obtain ⟨front, rest, whole⟩ := exists_toBytes_append long
    have cutFront : bytes.take Table.headerSize = front.toBytes := by
      rw [whole, List.take_append_of_le_length (by simp), List.take_of_length_le (by simp)]
    have found : read (bytes.take Table.headerSize) = some front := by
      rw [cutFront]
      simpa using read_toBytes_append front []
    have same (other : TableHeader) (back : Bytes) (eq : bytes = other.toBytes ++ back) :
        front = other := by
      have again := read_toBytes_append other back
      rw [← eq, whole, read_toBytes_append] at again
      exact Option.some.inj again
    simp only [found]
    split
    · rename_i bad
      refine iff_of_false (by simp) ?_
      rintro ⟨⟨back, eq⟩, atLeast, fits⟩
      rw [same header back eq] at bad
      omega
    · rename_i good
      constructor
      · intro ok
        cases ok
        exact ⟨⟨rest, whole⟩, by omega, by omega⟩
      · rintro ⟨⟨back, eq⟩, _⟩
        rw [same header back eq]
  · have short : read (bytes.take Table.headerSize) = none := by
      rw [Option.eq_none_iff_forall_not_mem]
      intro front found
      have enough := length_of_read found
      rw [List.length_take] at enough
      omega
    simp only [short]
    refine iff_of_false (by simp) ?_
    rintro ⟨⟨back, rfl⟩, _⟩
    simp at long

end TableHeader

end FirmwareTables
