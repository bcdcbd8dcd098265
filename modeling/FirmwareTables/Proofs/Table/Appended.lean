import FirmwareTables.Proofs.Table.Built

set_option autoImplicit false

namespace FirmwareTables.Table

structure Continues (table : Table) (more : Bytes) (longer : Table) : Prop where
  body : longer.body = table.body ++ more
  header : longer.header = { table.header with
    length := longer.header.length, checksum := longer.header.checksum }
  intact : Intact longer.toBytes

theorem Continues.sized {table longer : Table} {more : Bytes}
    (continues : table.Continues more longer) : longer.Sized := by
  have declared := continues.intact.declared
  rwa [lengthField_toBytes, length_toBytes] at declared

theorem Continues.trans {table middle longer : Table} {a b : Bytes}
    (first : table.Continues a middle) (second : middle.Continues b longer) :
    table.Continues (a ++ b) longer where
  body := by rw [second.body, first.body, List.append_assoc]
  header := by
    have header := second.header
    rw [first.header] at header
    exact header
  intact := second.intact

theorem eq_of_byteSum_eq_zero {front back : Bytes} {c d : UInt8}
    (one : byteSum (front ++ c :: back) = 0) (other : byteSum (front ++ d :: back) = 0) : c = d := by
  rw [byteSum_append, byteSum_cons] at one other
  grind

theorem Continues.unique {table one other : Table} {more : Bytes} (first : table.Continues more one)
    (second : table.Continues more other) : one = other := by
  have body : one.body = other.body := first.body.trans second.body.symm
  have length : one.header.length = other.header.length := by
    apply UInt32.toNat_inj.mp
    have sized := first.sized
    rw [Sized, body, ← second.sized] at sized
    exact sized
  have header : one.header = { other.header with checksum := one.header.checksum } := by
    rw [second.header, ← length]
    exact first.header
  have whole : one = { other with header.checksum := one.header.checksum } := by
    cases one
    cases other
    simp only at body header
    rw [body, header]
  obtain ⟨front, back, split⟩ := exists_checksum_between other
  have sum := first.intact.checksum
  have again := second.intact.checksum
  rw [whole, split] at sum
  have same : other.toBytes = front ++ other.header.checksum :: back := split other.header.checksum
  rw [same] at again
  rw [whole, eq_of_byteSum_eq_zero sum again]

theorem continues_of_append {table longer : Table} {more : Bytes} (sized : table.Sized)
    (appended : table.append more = .ok longer) : table.Continues more longer := by
  obtain ⟨sizedLonger, body, header⟩ := append_eq_ok sized appended
  have declared : TableHeader.lengthField longer.toBytes = longer.toBytes.length := by
    rw [lengthField_toBytes, sizedLonger, length_toBytes]
  obtain ⟨length, _, built⟩ := Action.bind_eq_ok.mp appended
  cases built
  exact ⟨body, header, declared, byteSum_toBytes_stamped _⟩

theorem exists_append {table : Table} {more : Bytes} (sized : table.Sized)
    (small : table.toBytes.length + more.length < 2 ^ 32) :
    ∃ longer, table.append more = .ok longer ∧ table.Continues more longer := by
  rw [length_toBytes, ← sized] at small
  have declared := declaredLength_eq_ok.mpr ⟨small, rfl⟩
  have appended : ∃ longer, table.append more = .ok longer :=
    ⟨_, Action.bind_eq_ok.mpr ⟨_, declared, rfl⟩⟩
  obtain ⟨longer, appended⟩ := appended
  exact ⟨longer, appended, continues_of_append sized appended⟩

theorem append_eq_error {table : Table} {more : Bytes} {e : TableError} (sized : table.Sized) :
    table.append more = .error e ↔ 2 ^ 32 ≤ table.toBytes.length + more.length ∧ e = .tooLarge := by
  rw [length_toBytes, ← sized, ← declaredLength_eq_error, append]
  cases declaredLength (table.size + more.length) with
  | error cause =>
    constructor
    · rintro ⟨rfl⟩
      rfl
    · rintro ⟨rfl⟩
      rfl
  | ok length => exact ⟨nofun, nofun⟩

theorem append_append {table : Table} {a b : Bytes} (sized : table.Sized)
    (small : table.toBytes.length + (a ++ b).length < 2 ^ 32) :
    ∃ middle longer, table.append a = .ok middle ∧ middle.append b = .ok longer ∧
      table.append (a ++ b) = .ok longer ∧ table.Continues a middle ∧
      table.Continues (a ++ b) longer := by
  have total : table.toBytes.length + a.length + b.length < 2 ^ 32 := by
    rwa [List.length_append, ← Nat.add_assoc] at small
  obtain ⟨middle, first, front⟩ := exists_append sized (Nat.lt_of_le_of_lt (Nat.le_add_right _ _) total)
  have grown : middle.toBytes.length = table.toBytes.length + a.length := by
    rw [length_toBytes, length_toBytes, front.body, List.length_append, Nat.add_assoc]
  obtain ⟨longer, second, back⟩ := exists_append front.sized (grown ▸ total)
  obtain ⟨whole, once, both⟩ := exists_append sized small
  rw [both.unique (front.trans back)] at once
  exact ⟨middle, longer, first, second, once, front, front.trans back⟩

theorem run_extend (table : Table) (more : Bytes) :
    (extend more).run table = match table.append more with
      | .ok longer => ⟨.ok (), longer, []⟩
      | .error e => ⟨.error e, table, []⟩ := by
  rw [append, extend, Action.run_bind]
  simp only [Action.run_get]
  cases declaredLength (table.size + more.length) with
  | ok length => rfl
  | error e => rfl

/-- A table that was read is written as far as it declared itself, and reads back the same. Appending to
it in two steps and in one gives the same table, which is in balance and differs in its header only in
length and checksum. Only what would get too large is refused, and the table then stays as it is. -/
theorem append_laws_of_parse {bytes : Bytes} {table : Table}
    (read : parse dsdtSignature bytes = .ok table) :
    table.toBytes = bytes.take (TableHeader.lengthField bytes) ∧
      parse dsdtSignature table.toBytes = .ok table ∧
      (∀ a b, table.toBytes.length + (a ++ b).length < 2 ^ 32 →
        ∃ middle longer, table.append a = .ok middle ∧ middle.append b = .ok longer ∧
          table.append (a ++ b) = .ok longer ∧ table.Continues a middle ∧
          table.Continues (a ++ b) longer) ∧
      ∀ more, (∀ e, table.append more = .error e ↔
          2 ^ 32 ≤ table.toBytes.length + more.length ∧ e = .tooLarge) ∧
        (extend more).run table = match table.append more with
          | .ok longer => ⟨.ok (), longer, []⟩
          | .error e => ⟨.error e, table, []⟩ := by
  obtain ⟨signature, sized, rest, rfl⟩ := parse_eq_ok_iff.mp read
  refine ⟨?_, ?_, ?_, ?_⟩
  · rw [sized.lengthField_toBytes_append, List.take_left]
  · exact parse_eq_ok_iff.mpr ⟨signature, sized, [], (List.append_nil _).symm⟩
  · intro a b small
    exact append_append sized small
  · intro more
    exact ⟨fun _ => append_eq_error sized, run_extend table more⟩

-- One byte behind the header is declared, one is not, and no checksum was set.
def looseTable : Bytes :=
  dsdtSignature.bytes ++ Bytes.word32 37 ++ List.replicate 28 0x20 ++ [0xA3, 0xFF]

theorem append_laws_of_parse_looseTable :
    checksumIsValid looseTable = false ∧
      ∃ table, parse dsdtSignature looseTable = .ok table ∧
        table.toBytes = looseTable.take 37 ∧
        table.toBytes.length + ([0x10, 0x20] ++ [0x30] : Bytes).length < 2 ^ 32 ∧
        ∃ middle longer, table.append [0x10, 0x20] = .ok middle ∧ middle.append [0x30] = .ok longer ∧
          table.append [0x10, 0x20, 0x30] = .ok longer ∧ table.Continues [0x10, 0x20] middle ∧
          table.Continues [0x10, 0x20, 0x30] longer := by
  have read : ∃ table, parse dsdtSignature looseTable = .ok table := ⟨_, by rfl⟩
  obtain ⟨table, read⟩ := read
  obtain ⟨declared, -, steps, -⟩ := append_laws_of_parse read
  have field : TableHeader.lengthField looseTable = 37 := by decide
  rw [field] at declared
  have small : table.toBytes.length + ([0x10, 0x20] ++ [0x30] : Bytes).length < 2 ^ 32 := by
    rw [declared]
    decide
  exact ⟨by decide, table, read, declared, small, steps _ _ small⟩

end FirmwareTables.Table
