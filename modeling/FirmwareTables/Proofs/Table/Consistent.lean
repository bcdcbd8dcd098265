import FirmwareTables.Proofs.Table.Built
import FirmwareTables.Table.Kind

set_option autoImplicit false

namespace FirmwareTables.Table

theorem checksumOf_eq (pieces : List Bytes) : checksumOf pieces = checksum pieces.flatten := by
  rw [checksumOf, ← List.foldl_flatten, ← byteSum, checksum]
  grind

structure Consistent (kind : Kind) (origin : Origin) (body : Bytes) (table : Table) : Prop where
  size : table.size = kind.headerSize + body.length
  length : table.toBytes.length = table.size
  intact : Intact table.toBytes
  accepted : TableHeader.parse table.toBytes = .ok table.header
  header : table.header = {
    signature := kind.signature
    length := table.header.length
    revision := kind.revision
    checksum := checksumOf [({ table.header with checksum := 0 }).toBytes ++ kind.more, body]
    oemId := origin.oemId
    oemTableId := origin.oemTableId
    oemRevision := origin.oemRevision
    creatorId := creatorId
    creatorRevision := creatorRevision }
  body : table.toBytes.drop kind.headerSize = body

theorem Sized.parse_header {table : Table} (sized : table.Sized) :
    TableHeader.parse table.toBytes = .ok table.header := by
  rw [Sized, size] at sized
  refine TableHeader.parse_eq_ok_iff.mpr ⟨⟨table.body, rfl⟩, ?_, ?_⟩
  · rw [sized]
    exact Nat.le_add_right ..
  · rw [sized, length_toBytes]

theorem consistent_stamped {kind : Kind} (origin : Origin) {body : Bytes}
    (small : kind.headerSize + body.length < 2 ^ 32) :
    Consistent kind origin body
      (blank kind.signature kind.revision origin (kind.more ++ body)).stamped := by
  set table := (blank kind.signature kind.revision origin (kind.more ++ body)).stamped
  have content : table.body = kind.more ++ body := rfl
  have total : headerSize + (kind.more ++ body).length = kind.headerSize + body.length := by
    rw [List.length_append, ← Nat.add_assoc, ← Kind.headerSize_eq]
  have sized : table.Sized := sized_blank kind.signature kind.revision origin (total ▸ small)
  have length : table.toBytes.length = table.size := by
    rw [length_toBytes, sized]
  refine ⟨?_, length, sized.intact_stamped, sized.parse_header, ?_, ?_⟩
  · rw [sized, content, total]
  · rw [checksumOf_eq, List.flatten_cons, List.flatten_singleton, List.append_assoc]
    rfl
  · rw [Kind.headerSize_eq, toBytes, content, ← List.append_assoc]
    exact List.drop_left' (by simp)

theorem make_eq_error {kind : Kind} {origin : Origin} {body : Bytes} {e : TableError} :
    kind.make origin body = .error e ↔
      2 ^ 32 ≤ kind.headerSize + body.length ∧ e = .tooLarge := by
  rw [Kind.make_eq, build_eq, List.length_append, ← Nat.add_assoc, ← Kind.headerSize_eq]
  split
  · next small => exact iff_of_false nofun fun given => Nat.not_le.mpr small given.1
  · next large =>
    exact ⟨fun same => ⟨Nat.le_of_not_lt large, (Except.error.inj same).symm⟩,
      fun given => given.2 ▸ rfl⟩

theorem exists_make {kind : Kind} (origin : Origin) {body : Bytes}
    (small : kind.headerSize + body.length < 2 ^ 32) :
    ∃ table, kind.make origin body = .ok table ∧ Consistent kind origin body table := by
  refine ⟨_, ?_, consistent_stamped origin small⟩
  rw [Kind.headerSize_eq, Nat.add_assoc, ← List.length_append] at small
  rw [Kind.make_eq, build_eq, if_pos small]

theorem run_restamp (buffer : Bytes) :
    restamp.run buffer = match updateChecksum buffer with
      | .ok stamped => ⟨.ok (), stamped, []⟩
      | .error e => ⟨.error e, buffer, []⟩ := by
  rw [restamp, Action.run_bind]
  simp only [Action.run_get, updateChecksum]
  split
  · rfl
  · rw [stampChecksum]
    have pieces (bytes : Bytes) : checksumOf [bytes] = checksum bytes := by
      rw [checksumOf_eq, List.flatten_singleton]
    simp only [pieces]
    rfl

theorem stampChecksum_set (buffer : Bytes) (b : UInt8) :
    stampChecksum (buffer.set checksumOffset b) = stampChecksum buffer := by
  simp only [stampChecksum, List.set_set]

theorem stampChecksum_stampChecksum (buffer : Bytes) :
    stampChecksum (stampChecksum buffer) = stampChecksum buffer := by
  have cleared : stampChecksum buffer =
      buffer.set checksumOffset (checksum (buffer.set checksumOffset 0)) := by
    rw [stampChecksum, List.set_set]
  rw [cleared, stampChecksum_set, ← cleared]

structure Restamped (buffer stamped : Bytes) : Prop where
  length : stamped.length = buffer.length
  elsewhere : ∀ i, i ≠ checksumOffset → stamped[i]? = buffer[i]?
  balanced : byteSum stamped = 0
  independent : ∀ b, updateChecksum (buffer.set checksumOffset b) = .ok stamped
  idempotent : updateChecksum stamped = .ok stamped

theorem restamped_stampChecksum {buffer : Bytes} (long : headerSize ≤ buffer.length) :
    Restamped buffer (stampChecksum buffer) where
  length := length_stampChecksum buffer
  elsewhere i other := by
    rw [stampChecksum, List.set_set, List.getElem?_set_ne other.symm]
  balanced := byteSum_stampChecksum (Nat.lt_of_lt_of_le (by decide) long)
  independent b := by
    rw [updateChecksum, List.length_set, if_neg (Nat.not_lt.mpr long), stampChecksum_set]
  idempotent := by
    rw [updateChecksum, length_stampChecksum, if_neg (Nat.not_lt.mpr long),
      stampChecksum_stampChecksum]

theorem make_consistent_restamp_exact (kind : Kind) (origin : Origin) (body buffer : Bytes) :
    (∀ e, kind.make origin body = .error e ↔
        2 ^ 32 ≤ kind.headerSize + body.length ∧ e = .tooLarge) ∧
      (kind.headerSize + body.length < 2 ^ 32 →
        ∃ table, kind.make origin body = .ok table ∧ Consistent kind origin body table) ∧
      (headerSize ≤ buffer.length → ∃ stamped, updateChecksum buffer = .ok stamped ∧
        restamp.run buffer = ⟨.ok (), stamped, []⟩ ∧ Restamped buffer stamped) ∧
      (buffer.length < headerSize →
        restamp.run buffer = ⟨.error (.tooShort headerSize buffer.length), buffer, []⟩) := by
  refine ⟨fun e => make_eq_error, exists_make origin, fun long => ?_, fun short => ?_⟩
  · have update : updateChecksum buffer = .ok (stampChecksum buffer) := if_neg (Nat.not_lt.mpr long)
    refine ⟨_, update, ?_, restamped_stampChecksum long⟩
    rw [run_restamp, update]
  · have update : updateChecksum buffer = .error (.tooShort headerSize buffer.length) := if_pos short
    rw [run_restamp, update]

-- Nothing in it was ever set.
def unsetBuffer : Bytes := List.replicate 37 0x20

def unsetOrigin : Origin := ⟨⟨List.replicate 6 0x20, rfl⟩, ⟨List.replicate 8 0x20, rfl⟩, 1⟩

theorem make_consistent_restamp_exact_unset :
    (Kind.madt 0xFEE00000).headerSize + unsetBuffer.length < 2 ^ 32 ∧
      (∃ table, (Kind.madt 0xFEE00000).make unsetOrigin unsetBuffer = .ok table ∧
        Consistent (.madt 0xFEE00000) unsetOrigin unsetBuffer table) ∧
      headerSize ≤ unsetBuffer.length ∧ checksumIsValid unsetBuffer = false ∧
      (∃ stamped, updateChecksum unsetBuffer = .ok stamped ∧
        restamp.run unsetBuffer = ⟨.ok (), stamped, []⟩ ∧ Restamped unsetBuffer stamped) ∧
      (unsetBuffer.take 35).length < headerSize ∧
      restamp.run (unsetBuffer.take 35) = ⟨.error (.tooShort 36 35), unsetBuffer.take 35, []⟩ := by
  have small : (Kind.madt 0xFEE00000).headerSize + unsetBuffer.length < 2 ^ 32 := by decide
  have long : headerSize ≤ unsetBuffer.length := by decide
  have short : (unsetBuffer.take 35).length < headerSize := by decide
  obtain ⟨-, made, stamped, -⟩ :=
    make_consistent_restamp_exact (.madt 0xFEE00000) unsetOrigin unsetBuffer unsetBuffer
  obtain ⟨-, -, -, refused⟩ :=
    make_consistent_restamp_exact .dsdt unsetOrigin unsetBuffer (unsetBuffer.take 35)
  exact ⟨small, made small, long, by decide, stamped long, short, refused short⟩

end FirmwareTables.Table
