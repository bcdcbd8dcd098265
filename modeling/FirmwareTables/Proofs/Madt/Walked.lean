import FirmwareTables.Proofs.Madt.Frame

set_option autoImplicit false

namespace FirmwareTables.Madt

inductive Yields (declared : Bytes) : Nat → List (Except TableError Entry) → Prop
  | done {offset : Nat} (ended : next declared offset = none) : Yields declared offset []
  | item {offset after : Nat} {item : Except TableError Entry} {items : List (Except TableError Entry)}
      (found : next declared offset = some (item, after)) (later : Yields declared after items) :
      Yields declared offset (item :: items)

theorem Yields.unique {declared : Bytes} {offset : Nat} {items others : List (Except TableError Entry)}
    (one : Yields declared offset items) (two : Yields declared offset others) : items = others := by
  induction one generalizing others with
  | done ended =>
    cases two with
    | done _ => rfl
    | item found _ =>
      rw [ended] at found
      cases found
  | item found later ih =>
    cases two with
    | done ended =>
      rw [ended] at found
      cases found
    | item again rest =>
      rw [found, Option.some.injEq, Prod.mk.injEq] at again
      obtain ⟨rfl, rfl⟩ := again
      rw [ih rest]

theorem next_progress {declared : Bytes} {offset after : Nat} {item : Except TableError Entry}
    (found : next declared offset = some (item, after)) :
    offset < after ∧ after ≤ declared.length := by
  unfold next at found
  split at found
  · cases found
  next inside =>
    split at found
    · cases found
      omega
    next front back isCut =>
      split at found
      · cases found
        omega
      · cases found
        obtain ⟨whole, long⟩ := cut_eq_some isCut
        have size := congrArg List.length whole
        rw [List.length_drop, List.length_append] at size
        omega

def Walk.items (found : Walk) : List (Except TableError Entry) :=
  found.entries.map .ok ++ found.stuck.toList.map fun offset => .error (.malformedStructure offset)

theorem not_le_of_drop {declared : Bytes} {offset : Nat} {b : UInt8} {more : Bytes}
    (here : declared.drop offset = b :: more) : ¬declared.length ≤ offset := by
  intro past
  rw [List.drop_eq_nil_of_le past] at here
  cases here

theorem yields_end (declared : Bytes) : Yields declared declared.length [] :=
  .done (if_pos (Nat.le_refl _))

theorem yields_walkFrom {declared : Bytes} (offset : Nat) (bytes : Bytes)
    (here : declared.drop offset = bytes) : Yields declared offset (walkFrom offset bytes).items := by
  fun_induction walkFrom offset bytes with
  | case1 offset => exact .done (if_pos (List.drop_eq_nil_iff.mp here))
  | case2 offset b more stuck =>
    have found : next declared offset = some (.error (.malformedStructure offset), declared.length) := by
      simp only [next, if_neg (not_le_of_drop here), here, stuck]
    exact .item found (yields_end declared)
  | case3 offset b more front back isCut unread =>
    have found : next declared offset = some (.error (.malformedStructure offset), declared.length) := by
      simp only [next, if_neg (not_le_of_drop here), here, isCut, unread]
    exact .item found (yields_end declared)
  | case4 offset b more front back isCut content read later ih =>
    have found : next declared offset =
        some (.ok { offset, content, bytes := front }, offset + front.length) := by
      simp only [next, if_neg (not_le_of_drop here), here, isCut, read]
    have rest : declared.drop (offset + front.length) = back := by
      rw [← List.drop_drop, here, (cut_eq_some isCut).1, List.drop_left]
    exact .item found (ih rest)

-- The entries tile the front of the area; the walk is stuck behind them if something is left there.
structure Reaches (offset : Nat) (bytes : Bytes) (found : Walk) : Prop where
  tiled : Tiled offset found.entries
  rest : ∃ rest, bytes = area found.entries ++ rest ∧
    found.stuck = if rest = [] then none else some (offset + (area found.entries).length)

theorem reaches_walkFrom (offset : Nat) (bytes : Bytes) :
    Reaches offset bytes (walkFrom offset bytes) := by
  fun_induction walkFrom offset bytes with
  | case1 offset => exact ⟨trivial, [], rfl, rfl⟩
  | case2 offset b more _ => exact ⟨trivial, b :: more, rfl, by simp⟩
  | case3 offset b more _ _ _ _ => exact ⟨trivial, b :: more, rfl, by simp⟩
  | case4 offset b more front back isCut content read later ih =>
    obtain ⟨whole, sized⟩ := cut_eq_some_iff.mp isCut
    obtain ⟨rest, covers, stuck⟩ := ih.rest
    refine ⟨⟨rfl, ⟨sized, read⟩, ih.tiled⟩, rest, ?_, ?_⟩
    · rw [area_cons, whole, covers, List.append_assoc]
    · simp only [later, stuck, area_cons, List.length_append, Nat.add_assoc]

theorem Reaches.stuck_eq {offset place : Nat} {bytes : Bytes} {found : Walk}
    (reaches : Reaches offset bytes found) (stuck : found.stuck = some place) :
    place = offset + (area found.entries).length ∧ (area found.entries).length < bytes.length := by
  obtain ⟨rest, whole, ended⟩ := reaches.rest
  rw [stuck] at ended
  split at ended
  · cases ended
  next more =>
    cases ended
    have left := List.length_pos_of_ne_nil more
    rw [whole, List.length_append]
    omega

theorem Reaches.stuck_eq_none_iff {offset : Nat} {bytes : Bytes} {found : Walk}
    (reaches : Reaches offset bytes found) :
    found.stuck = none ↔ (area found.entries).length = bytes.length := by
  obtain ⟨rest, whole, ended⟩ := reaches.rest
  rw [ended, whole, List.length_append]
  cases rest <;> simp

theorem Tiled.two_mul_le {offset : Nat} {found : List Entry} (tiled : Tiled offset found) :
    2 * found.length ≤ (area found).length := by
  induction found generalizing offset with
  | nil => rfl
  | cons entry rest ih =>
    have long := tiled.2.1.1.two_le
    have later := ih tiled.2.2
    rw [area_cons, List.length_append, List.length_cons]
    omega

theorem Tiled.inside {offset : Nat} {found : List Entry} (tiled : Tiled offset found) :
    ∀ entry ∈ found, offset ≤ entry.offset ∧
      entry.offset + entry.bytes.length ≤ offset + (area found).length := by
  induction found generalizing offset with
  | nil => simp
  | cons head rest ih =>
    intro entry member
    rw [area_cons, List.length_append]
    cases List.mem_cons.mp member with
    | inl same =>
      rw [same, tiled.1]
      omega
    | inr later =>
      have inside := ih tiled.2.2 entry later
      omega

theorem stuck_eq_none_iff_spans (offset : Nat) (bytes : Bytes) :
    (walkFrom offset bytes).stuck = none ↔
      ∃ pieces : List Bytes, (∀ piece ∈ pieces, Spans piece) ∧ bytes = pieces.flatten := by
  constructor
  · intro ended
    have walked : walkFrom offset bytes = { entries := (walkFrom offset bytes).entries, stuck := none } := by
      rw [← ended]
    obtain ⟨tiled, whole⟩ := (walkFrom_eq_iff offset bytes _).mp walked
    refine ⟨(walkFrom offset bytes).entries.map (·.bytes), ?_, ?_⟩
    · intro piece member
      obtain ⟨entry, listed, rfl⟩ := List.mem_map.mp member
      exact (tiled.decoded entry listed).spans
    · rw [← area_eq, whole]
  · intro cuttable
    obtain ⟨pieces, spans, rfl⟩ := cuttable
    obtain ⟨found, tiled, same⟩ := exists_tiled spans offset
    have whole : area found = pieces.flatten := by rw [area_eq, same]
    rw [(walkFrom_eq_iff offset _ found).mpr ⟨tiled, whole⟩]

def declaredPart (table : Bytes) : Bytes := table.take (TableHeader.lengthField table)

theorem lengthField_take {bytes : Bytes} {count : Nat} (enough : 8 ≤ count) :
    TableHeader.lengthField (bytes.take count) = TableHeader.lengthField bytes := by
  have field : ((bytes.take count).drop 4).take 4 = (bytes.drop 4).take 4 := by
    rw [List.drop_take, List.take_take, Nat.min_eq_left (by omega)]
  rw [TableHeader.lengthField, field, TableHeader.lengthField]

theorem Framed.length_declaredPart {table : Bytes} (framed : Framed table) :
    (declaredPart table).length = TableHeader.lengthField table := by
  rw [declaredPart, List.length_take, Nat.min_eq_left framed.fits]

theorem Framed.of_take {table other : Bytes} (framed : Framed table)
    (same : other.take (TableHeader.lengthField table) = declaredPart table) :
    Framed other ∧ declaredPart other = declaredPart table := by
  have room := framed.room
  rw [headerSize] at room
  have length : TableHeader.lengthField other = TableHeader.lengthField table := by
    have read := congrArg TableHeader.lengthField same
    rwa [declaredPart, lengthField_take (by omega), lengthField_take (by omega)] at read
  have fits : TableHeader.lengthField table ≤ other.length := by
    have size := congrArg List.length same
    rw [framed.length_declaredPart, List.length_take] at size
    omega
  have signature : other.take 4 = table.take 4 := by
    have front := congrArg (List.take 4) same
    rwa [declaredPart, List.take_take, List.take_take, Nat.min_eq_left (by omega)] at front
  constructor
  · exact {
      header := Nat.le_trans framed.declared fits
      declared := length.symm ▸ framed.declared
      fits := length.symm ▸ fits
      signature := signature.trans framed.signature
      room := length.symm ▸ framed.room }
  · rw [declaredPart, length, same]

structure Walk.Exact (found : Walk) (table : Bytes) : Prop where
  yields : ∀ items, Yields (declaredPart table) headerSize items ↔ items = found.items
  progress : ∀ offset item after, next (declaredPart table) offset = some (item, after) →
    offset < after ∧ after ≤ TableHeader.lengthField table
  few : 2 * found.entries.length ≤ TableHeader.lengthField table - headerSize
  tiled : Tiled headerSize found.entries
  inside : ∀ entry ∈ found.entries, 2 ≤ entry.bytes.length ∧
    entry.offset + entry.bytes.length ≤ TableHeader.lengthField table ∧
    entry.slice table = entry.bytes
  stuck : ∀ offset, found.stuck = some offset →
    offset = headerSize + (area found.entries).length ∧ offset < TableHeader.lengthField table
  complete : found.stuck = none ↔
    headerSize + (area found.entries).length = TableHeader.lengthField table ∧
      ∀ entry ∈ found.entries, layoutSize entry.content.number ≤ entry.bytes.length
  spans : found.stuck = none ↔ ∃ pieces : List Bytes, (∀ piece ∈ pieces, Spans piece) ∧
    (declaredPart table).drop headerSize = pieces.flatten
  frame : ∀ other : Bytes, other.take (TableHeader.lengthField table) = declaredPart table →
    walk other = .ok found

theorem walk_of_framed {table : Bytes} (framed : Framed table) :
    walk table = .ok (walkFrom headerSize ((declaredPart table).drop headerSize)) := by
  have located := structureArea_eq_ok_iff.mpr ⟨framed, rfl⟩
  rw [walk, located]
  rfl

section Exact

variable {table : Bytes} {found : Walk}

theorem Framed.length_area (framed : Framed table) :
    ((declaredPart table).drop headerSize).length = TableHeader.lengthField table - headerSize := by
  rw [List.length_drop, framed.length_declaredPart]

theorem Framed.slice_eq (framed : Framed table)
    (reaches : Reaches headerSize ((declaredPart table).drop headerSize) found) :
    ∀ entry ∈ found.entries, entry.slice table = entry.bytes := by
  obtain ⟨rest, whole, _⟩ := reaches.rest
  have room := framed.room
  have front : ((declaredPart table).take headerSize).length = headerSize := by
    rw [List.length_take, framed.length_declaredPart, Nat.min_eq_left room]
  have parts : table = (declaredPart table).take headerSize ++ area found.entries ++
      (rest ++ table.drop (TableHeader.lengthField table)) := by
    rw [List.append_assoc, ← List.append_assoc (area found.entries), ← whole, ← List.append_assoc,
      List.take_append_drop, declaredPart, List.take_append_drop]
  have tiled := reaches.tiled
  rw [← front] at tiled
  have slices := tiled.slice_eq _ (rest ++ table.drop (TableHeader.lengthField table))
  rwa [← parts] at slices

theorem Framed.exact (framed : Framed table)
    (walked : walkFrom headerSize ((declaredPart table).drop headerSize) = found) :
    found.Exact table := by
  have reaches := reaches_walkFrom headerSize ((declaredPart table).drop headerSize)
  have yields := yields_walkFrom headerSize ((declaredPart table).drop headerSize) rfl
  have spans := stuck_eq_none_iff_spans headerSize ((declaredPart table).drop headerSize)
  rw [walked] at reaches yields spans
  have room := framed.room
  have size := framed.length_area
  have within : (area found.entries).length ≤ TableHeader.lengthField table - headerSize := by
    obtain ⟨rest, whole, _⟩ := reaches.rest
    rw [← size, whole, List.length_append]
    exact Nat.le_add_right _ _
  exact {
    yields := by
      intro items
      constructor
      · intro other
        exact other.unique yields
      · intro same
        rw [same]
        exact yields
    progress := by
      intro offset item after taken
      have further := next_progress taken
      rwa [framed.length_declaredPart] at further
    few := Nat.le_trans reaches.tiled.two_mul_le within
    tiled := reaches.tiled
    inside := by
      intro entry member
      have place := reaches.tiled.inside entry member
      have long := (reaches.tiled.decoded entry member).1.two_le
      exact ⟨long, by omega, framed.slice_eq reaches entry member⟩
    stuck := by
      intro offset stuck
      obtain ⟨place, less⟩ := reaches.stuck_eq stuck
      exact ⟨place, by omega⟩
    complete := by
      rw [reaches.stuck_eq_none_iff, size]
      constructor
      · intro full
        exact ⟨by omega, fun entry member => (reaches.tiled.decoded entry member).layoutSize_le⟩
      · intro full
        have reached := full.1
        omega
    spans
    frame := by
      intro other same
      obtain ⟨framedOther, part⟩ := framed.of_take same
      rw [walk_of_framed framedOther, part, walked] }

end Exact

theorem walk_exact (table bytes : Bytes) (accepted : structureArea table = .ok bytes) :
    ∃ found, walk table = .ok found ∧ found.Exact table := by
  have framed := (structureArea_eq_ok_iff.mp accepted).1
  exact ⟨_, walk_of_framed framed, framed.exact rfl⟩

def lastIoApic : IoApic := { id := 1, address := 2, gsiBase := 3 }

-- An IOAPIC, a structure of no known type, an x2APIC that is too short, and a byte past the end.
def brokenTable : Bytes :=
  Table.madtSignature.bytes ++ Bytes.word32 63 ++ List.replicate 36 0 ++
    (Structure.ioApic lastIoApic).encode ++ [0x99, 3, 0] ++ [9, 4, 0, 0] ++ [0xFF]

def brokenArea : Bytes :=
  (Structure.ioApic lastIoApic).encode ++ [0x99, 3, 0] ++ [9, 4, 0, 0]

theorem walk_exact_brokenTable :
    structureArea brokenTable = .ok brokenArea ∧
      walk brokenTable = .ok {
        entries := [⟨44, .ioApic lastIoApic, (Structure.ioApic lastIoApic).encode⟩,
          ⟨56, .other 0x99 3, [0x99, 3, 0]⟩]
        stuck := some 59 } ∧
      ∃ found, walk brokenTable = .ok found ∧ found.Exact brokenTable := by
  have accepted : structureArea brokenTable = .ok brokenArea := by cbv
  exact ⟨accepted, by cbv, walk_exact brokenTable brokenArea accepted⟩

end FirmwareTables.Madt
