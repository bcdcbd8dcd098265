import FirmwareTables.Proofs.Store.Replaced
import FirmwareTables.Proofs.Table.Appended

set_option autoImplicit false

namespace FirmwareTables

theorem TableHeader.toBytes_rewritten (header : TableHeader) (length : UInt32) (checksum : UInt8) :
    ({ header with length, checksum } : TableHeader).toBytes =
      (Bytes.overwrite 4 (Bytes.word32 length) header.toBytes).set Table.checksumOffset checksum := by
  obtain ⟨a, b, c, d, signature⟩ : ∃ a b c d, header.signature.bytes = [a, b, c, d] :=
    List.length_eq_four.mp header.signature.length_eq
  have place : Table.checksumOffset = 9 := rfl
  simp [toBytes, Bytes.overwrite, Bytes.word32, Bytes.littleEndian, signature, place]

namespace Table

-- The old table as far as it declares itself, but for its length and checksum, then the new bytes.
structure Extension (old more new : Bytes) : Prop where
  fits : headerSize ≤ TableHeader.lengthField old ∧ TableHeader.lengthField old ≤ old.length
  intact : Intact new
  bytes : ∃ checksum, new =
    (Bytes.overwrite 4 (Bytes.littleEndian 4 new.length)
      (old.take (TableHeader.lengthField old))).set checksumOffset checksum ++ more

theorem extension_of_append {signature : FixedBytes 4} {old more : Bytes} {table merged : Table}
    (parsed : parse signature old = .ok table) (appended : table.append more = .ok merged) :
    Extension old more merged.toBytes := by
  obtain ⟨_, sized, rest, rfl⟩ := parse_eq_ok_iff.mp parsed
  have continues := continues_of_append sized appended
  have declared := sized.lengthField_toBytes_append rest
  refine ⟨?_, continues.intact, merged.header.checksum, ?_⟩
  · rw [declared, List.length_append, length_toBytes]
    exact ⟨Nat.le_add_right _ _, Nat.le_add_right _ _⟩
  · have length : Bytes.littleEndian 4 merged.toBytes.length = Bytes.word32 merged.header.length := by
      rw [length_toBytes, ← continues.sized, size, Bytes.word32]
    have room : 4 + (Bytes.word32 merged.header.length).length ≤ table.header.toBytes.length := by
      simp [headerSize]
    have front : Bytes.overwrite 4 (Bytes.word32 merged.header.length) table.toBytes =
        Bytes.overwrite 4 (Bytes.word32 merged.header.length) table.header.toBytes ++ table.body := by
      have within := @Bytes.overwrite_append [] _ table.body _ _ room
      rwa [List.length_nil, Nat.zero_add, List.nil_append, List.nil_append] at within
    have inside : checksumOffset <
        (Bytes.overwrite 4 (Bytes.word32 merged.header.length) table.header.toBytes).length := by
      rw [Bytes.length_overwrite room, TableHeader.length_toBytes]
      decide
    rw [declared, List.take_left, length, front, List.set_append_left _ _ inside,
      ← TableHeader.toBytes_rewritten, ← continues.header, List.append_assoc, ← continues.body, toBytes]

end Table

namespace TableStore

structure Exchanged (before after : TableStore) (key key' : Nat) (new : Bytes) : Prop where
  emptied : after.tables[key]? = some none
  untouched : ∀ i, i ≠ key → i ≠ key' → after.tables[i]? = before.tables[i]?
  fresh : before.tables[key']? = none
  installed : after.tables[key']? = some (some new)

theorem exchanged_replaced {store : TableStore} {key : Nat} (inside : key < store.tables.length)
    (new : Bytes) : Exchanged store (store.replaced key new) key store.tables.length new where
  emptied := getElem?_replaced_self inside new
  untouched := by
    intro i other apart
    rcases Nat.lt_or_gt_of_ne apart with within | beyond
    · exact getElem?_replaced_of_ne within other new
    · rw [List.getElem?_eq_none (Nat.le_of_lt beyond), List.getElem?_eq_none]
      rwa [replaced, List.length_append, List.length_set, List.length_singleton]
  fresh := List.getElem?_eq_none (Nat.le_refl _)
  installed := getElem?_replaced_length store key new

theorem mergeBlock_extends_first {oemTableId : FixedBytes 8} {block : Bytes}
    {before after : TableStore} {key' : Nat}
    (done : (mergeBlock oemTableId block).Answers before key' after) :
    ∃ key old new,
      FirstAt (isMatch Table.dsdtSignature (some oemTableId)) before.tables key old ∧
      Exchanged before after key key' new ∧ Table.Extension old block new := by
  obtain ⟨key, old, table, merged, found, parsed, extended, rfl, rfl⟩ := mergeBlock_answers done
  have first := find_eq_some_iff.mp found
  have inside : key < before.tables.length := (List.getElem?_eq_some_iff.mp first.place).1
  exact ⟨key, old, merged.toBytes, first, exchanged_replaced inside merged.toBytes,
    Table.extension_of_append parsed extended⟩

-- A DSDT that declares one byte behind its header, and whose checksum was never set.
def looseDsdt (oemTableId : FixedBytes 8) (body : Bytes) : Bytes :=
  Table.dsdtSignature.bytes ++ Bytes.word32 37 ++ List.replicate 8 0 ++ oemTableId.bytes ++
    List.replicate 12 0 ++ body

def firstId : FixedBytes 8 := .padded 8 0 [1]

def secondId : FixedBytes 8 := .padded 8 0 [2]

-- Two tables have the second id, and there are bytes behind the first of these.
def looseStore : TableStore where
  tables := [some (looseDsdt firstId [0xA3]), none, some (looseDsdt secondId [0xA3, 0xFF, 0xFF]),
    some (looseDsdt secondId [0xA3])]

theorem mergeBlock_extends_first_looseStore :
    let merging := (mergeBlock secondId [1, 2]).run looseStore
    merging.result = .ok 4 ∧ ∃ key old new,
      FirstAt (isMatch Table.dsdtSignature (some secondId)) looseStore.tables key old ∧
      Exchanged looseStore merging.state key 4 new ∧ Table.Extension old [1, 2] new := by
  intro merging
  have merged : merging.result = .ok 4 := by cbv
  exact ⟨merged, mergeBlock_extends_first ⟨merged, rfl⟩⟩

example : Table.checksumIsValid (looseDsdt secondId [0xA3, 0xFF, 0xFF]) = false ∧
    (((mergeBlock secondId [1, 2]).run looseStore).state.tables.map
      (Option.map (·.drop Table.headerSize))) =
        [some [0xA3], none, none, some [0xA3], some [0xA3, 1, 2]] := by
  exact ⟨by decide, by cbv⟩

end TableStore

end FirmwareTables
