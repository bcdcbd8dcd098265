import FirmwareTables.Table.Checksum
import Mathlib

set_option autoImplicit false

namespace FirmwareTables.Table

theorem foldl_add (start : UInt8) (bytes : Bytes) :
    bytes.foldl (· + ·) start = start + byteSum bytes := by
  induction bytes generalizing start with
  | nil => simp [byteSum]
  | cons b rest ih =>
    have whole : byteSum (b :: rest) = b + byteSum rest := by
      rw [byteSum, List.foldl_cons, ih, UInt8.zero_add]
    rw [List.foldl_cons, ih, whole, UInt8.add_assoc]

theorem byteSum_cons (b : UInt8) (rest : Bytes) : byteSum (b :: rest) = b + byteSum rest := by
  rw [byteSum, List.foldl_cons, foldl_add, UInt8.zero_add]

theorem byteSum_append (front back : Bytes) :
    byteSum (front ++ back) = byteSum front + byteSum back := by
  rw [byteSum, List.foldl_append, foldl_add, ← byteSum]

theorem byteSum_checksum (front back : Bytes) :
    byteSum (front ++ checksum (front ++ 0 :: back) :: back) = 0 := by
  simp only [checksum, byteSum_append, byteSum_cons]
  grind

theorem stampChecksum_append {front : Bytes} (old : UInt8) (back : Bytes)
    (place : front.length = checksumOffset) :
    stampChecksum (front ++ old :: back) = front ++ checksum (front ++ 0 :: back) :: back := by
  simp [stampChecksum, ← place]

theorem exists_checksum_place {table : Bytes} (long : checksumOffset < table.length) :
    ∃ (front : Bytes) (old : UInt8) (back : Bytes),
      table = front ++ old :: back ∧ front.length = checksumOffset := by
  refine ⟨table.take checksumOffset, table[checksumOffset], table.drop (checksumOffset + 1), ?_, ?_⟩
  · simp
  · rw [List.length_take, Nat.min_eq_left (Nat.le_of_lt long)]

theorem byteSum_stampChecksum {table : Bytes} (long : checksumOffset < table.length) :
    byteSum (stampChecksum table) = 0 := by
  obtain ⟨front, old, back, rfl, place⟩ := exists_checksum_place long
  rw [stampChecksum_append old back place, byteSum_checksum]

@[simp] theorem length_stampChecksum (table : Bytes) :
    (stampChecksum table).length = table.length := by
  simp [stampChecksum]

theorem exists_stamped_header {header : Bytes} (rest : Bytes) (long : checksumOffset < header.length) :
    ∃ stamped, stampChecksum (header ++ rest) = stamped ++ rest ∧ stamped.length = header.length ∧
      ∀ i, i ≠ checksumOffset → stamped[i]? = header[i]? := by
  refine ⟨header.set checksumOffset (checksum ((header ++ rest).set checksumOffset 0)), ?_, ?_, ?_⟩
  · rw [stampChecksum, List.set_set, List.set_append_left _ _ long]
  · rw [List.length_set]
  · intro i other
    rw [List.getElem?_set_ne other.symm]

end FirmwareTables.Table
