import FirmwareTables.Action
import FirmwareTables.Proofs.Table.Header

set_option autoImplicit false

namespace FirmwareTables.Table

def bodyOf (bytes : Bytes) : Bytes := (bytes.take (TableHeader.lengthField bytes)).drop headerSize

def Sized (table : Table) : Prop := table.size = headerSize + table.body.length

theorem length_toBytes (table : Table) : table.toBytes.length = headerSize + table.body.length := by
  rw [toBytes, List.length_append, TableHeader.length_toBytes]

theorem lengthField_toBytes_append (table : Table) (rest : Bytes) :
    TableHeader.lengthField (table.toBytes ++ rest) = table.size := by
  rw [toBytes, List.append_assoc, TableHeader.lengthField_toBytes_append, size]

theorem lengthField_toBytes (table : Table) : TableHeader.lengthField table.toBytes = table.size := by
  have field := lengthField_toBytes_append table []
  rwa [List.append_nil] at field

theorem Sized.lengthField_toBytes_append {table : Table} (sized : table.Sized) (rest : Bytes) :
    TableHeader.lengthField (table.toBytes ++ rest) = table.toBytes.length := by
  rw [Table.lengthField_toBytes_append, sized, length_toBytes]

theorem bodyOf_toBytes_append {table : Table} (sized : table.Sized) (rest : Bytes) :
    bodyOf (table.toBytes ++ rest) = table.body := by
  have whole : (table.toBytes ++ rest).take table.size = table.toBytes := by
    rw [sized, ← length_toBytes, List.take_left]
  rw [bodyOf, lengthField_toBytes_append, whole, toBytes, List.drop_left' (by simp)]

theorem parse_eq_ok_iff {signature : FixedBytes 4} {bytes : Bytes} {table : Table} :
    parse signature bytes = .ok table ↔
      table.header.signature = signature ∧ table.Sized ∧ ∃ rest, bytes = table.toBytes ++ rest := by
  constructor
  · intro parsed
    obtain ⟨header, read, checked⟩ := Action.bind_eq_ok.mp parsed
    obtain ⟨⟨rest, whole⟩, room, fits⟩ := TableHeader.parse_eq_ok_iff.mp read
    split at checked
    · next same =>
      cases checked
      have front : (bytes.take header.length.toNat).take headerSize = header.toBytes := by
        rw [List.take_take, Nat.min_eq_left room, whole, List.take_left' (by simp)]
      refine ⟨same, ?_, bytes.drop header.length.toNat, ?_⟩
      · rw [Sized, size, List.length_drop, List.length_take, Nat.min_eq_left fits]
        exact (Nat.add_sub_cancel' room).symm
      · have cut := List.take_append_drop headerSize (bytes.take header.length.toNat)
        rw [toBytes, ← front, cut, List.take_append_drop]
    · cases checked
  · rintro ⟨same, sized, rest, rfl⟩
    have read : TableHeader.parse (table.toBytes ++ rest) = .ok table.header := by
      refine TableHeader.parse_eq_ok_iff.mpr ⟨⟨table.body ++ rest, List.append_assoc ..⟩, ?_, ?_⟩
      · rw [Sized, size] at sized
        omega
      · rw [Sized, size] at sized
        rw [List.length_append, length_toBytes]
        omega
    have body := bodyOf_toBytes_append sized rest
    rw [bodyOf, lengthField_toBytes_append, size] at body
    refine Action.bind_eq_ok.mpr ⟨table.header, read, ?_⟩
    rw [if_pos same, body]
    rfl

theorem declaredLength_eq_ok {size : Nat} {length : UInt32} :
    declaredLength size = .ok length ↔ size < 2 ^ 32 ∧ length = UInt32.ofNat size := by
  unfold declaredLength
  split
  next small => simp [small, eq_comm]
  next large => simp [large]

theorem declaredLength_eq_error {size : Nat} {e : TableError} :
    declaredLength size = .error e ↔ 2 ^ 32 ≤ size ∧ e = .tooLarge := by
  unfold declaredLength
  split
  next small => simp [small]
  next large => simp [Nat.le_of_not_lt large, eq_comm]

theorem append_eq_ok {table merged : Table} {more : Bytes} (sized : table.Sized)
    (appended : table.append more = .ok merged) :
    merged.Sized ∧ merged.body = table.body ++ more ∧
      merged.header = { table.header with
        length := merged.header.length, checksum := merged.header.checksum } := by
  obtain ⟨length, declared, built⟩ := Action.bind_eq_ok.mp appended
  obtain ⟨small, rfl⟩ := declaredLength_eq_ok.mp declared
  cases built
  refine ⟨?_, rfl, rfl⟩
  rw [Sized] at sized
  simp only [Sized, size, stamped, UInt32.toNat_ofNat', List.length_append] at sized ⊢
  simp only [size] at small
  omega

theorem bodyOf_append {signature : FixedBytes 4} {old more : Bytes} {table merged : Table}
    (parsed : parse signature old = .ok table) (appended : table.append more = .ok merged) :
    bodyOf merged.toBytes = bodyOf old ++ more := by
  obtain ⟨_, sized, rest, whole⟩ := parse_eq_ok_iff.mp parsed
  obtain ⟨sizedMerged, body, _⟩ := append_eq_ok sized appended
  have new := bodyOf_toBytes_append sizedMerged []
  rw [List.append_nil] at new
  rw [new, body, whole, bodyOf_toBytes_append sized]

end FirmwareTables.Table
