import FirmwareTables.Proofs.Table.Checksum
import FirmwareTables.Proofs.Table.Extended

set_option autoImplicit false

namespace FirmwareTables.Table

theorem exists_checksum_between (table : Table) :
    ∃ front back, ∀ checksum : UInt8,
      ({ table with header.checksum := checksum } : Table).toBytes = front ++ checksum :: back := by
  refine ⟨table.header.signature.bytes ++ Bytes.word32 table.header.length ++ [table.header.revision],
    table.header.oemId.bytes ++ table.header.oemTableId.bytes ++
      Bytes.word32 table.header.oemRevision ++ table.header.creatorId.bytes ++
      Bytes.word32 table.header.creatorRevision ++ table.body, ?_⟩
  intro checksum
  simp [toBytes, TableHeader.toBytes]

theorem byteSum_toBytes_stamped (table : Table) : byteSum table.stamped.toBytes = 0 := by
  obtain ⟨front, back, split⟩ := exists_checksum_between table
  rw [stamped, split, split, byteSum_checksum]

-- What an operating system checks of a table before it reads on.
structure Intact (bytes : Bytes) : Prop where
  declared : TableHeader.lengthField bytes = bytes.length
  checksum : byteSum bytes = 0

theorem Sized.intact_stamped {table : Table} (sized : table.Sized) : Intact table.stamped.toBytes where
  declared := by
    rw [lengthField_toBytes, length_toBytes]
    exact sized
  checksum := byteSum_toBytes_stamped table

def blank (signature : FixedBytes 4) (revision : UInt8) (origin : Origin) (body : Bytes) : Table where
  header := {
    signature, revision, creatorId, creatorRevision
    length := UInt32.ofNat (headerSize + body.length)
    checksum := 0
    oemId := origin.oemId
    oemTableId := origin.oemTableId
    oemRevision := origin.oemRevision }
  body

theorem sized_blank (signature : FixedBytes 4) (revision : UInt8) (origin : Origin) {body : Bytes}
    (small : headerSize + body.length < 2 ^ 32) : (blank signature revision origin body).Sized :=
  UInt32.toNat_ofNat_of_lt' small

theorem build_eq (signature : FixedBytes 4) (revision : UInt8) (origin : Origin) (body : Bytes) :
    build signature revision origin body =
      if headerSize + body.length < 2 ^ 32 then .ok (blank signature revision origin body).stamped
      else .error .tooLarge := by
  split
  · next small =>
    rw [build, declaredLength_eq_ok.mpr ⟨small, rfl⟩]
    rfl
  · next large =>
    rw [build, declaredLength_eq_error.mpr ⟨Nat.le_of_not_lt large, rfl⟩]
    rfl

theorem exists_build (signature : FixedBytes 4) (revision : UInt8) (origin : Origin) {body : Bytes}
    (small : headerSize + body.length < 2 ^ 32) :
    ∃ table, build signature revision origin body = .ok table ∧ table.header.signature = signature ∧
      table.body = body ∧ Intact table.toBytes := by
  refine ⟨(blank signature revision origin body).stamped, ?_, rfl, rfl,
    (sized_blank _ _ _ small).intact_stamped⟩
  rw [build_eq, if_pos small]

end FirmwareTables.Table
