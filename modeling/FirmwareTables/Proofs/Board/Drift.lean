import FirmwareTables.Proofs.Board.Agreement
import FirmwareTables.Proofs.Board.Staged
import FirmwareTables.Proofs.Collation.Before

set_option autoImplicit false

namespace FirmwareTables.Board

-- The services and the installed MADT tell of the same identifiers, the services of each once.
structure Inventory (board : Board) (store : TableStore) (mpIds madtIds : List UInt32) : Prop where
  processors : ∃ listed, board.mp.Lists listed ∧ listed.map (·.id.toNat) = mpIds.map (·.toNat)
  x2Apics : ∃ key madt x2Apics, store.find Table.madtSignature none = some (key, madt) ∧
    Madt.HasX2Apics madt x2Apics ∧ x2Apics.map (·.id) = madtIds
  distinct : mpIds.Nodup
  same : ∀ id, id ∈ madtIds ↔ id ∈ mpIds

def KeepsUids (store : TableStore) (processors : List Processor) : Prop :=
  ∃ madt x2Apics, store.tables.getLast? = some (some madt) ∧ Madt.HasX2Apics madt x2Apics ∧
    ∀ fields ∈ x2Apics, ∃ processor ∈ processors,
      processor.id = fields.id ∧ processor.uid = fields.uid

section Collated

variable {collation : Collation} {x2Apics ordered : List Madt.LocalX2Apic}
  {found processors : List Processor}

theorem getElem_of_uid (collated : collation.collate x2Apics = .ok ordered)
    (numbered : collation.collate found = .ok processors) {j : Nat} (inside : j < ordered.length)
    {processor : Processor} (member : processor ∈ processors) (uid : processor.uid = ordered[j].uid) :
    ∃ within : j < processors.length, processors[j] = processor := by
  obtain ⟨i, within, rfl⟩ := List.getElem_of_mem member
  have here := Collation.uid_of_collate Processor.uid (fun _ _ => rfl) numbered within
  have there := Collation.uid_of_collate Madt.LocalX2Apic.uid (fun _ _ => rfl) collated inside
  have words : UInt32.ofNat i = UInt32.ofNat j := by rw [← here, ← there, uid]
  have same : i = j := by
    rw [← Collation.toNat_place numbered within, words, Collation.toNat_place collated inside]
  subst same
  exact ⟨within, rfl⟩

theorem map_id_eq_of_uids (collated : collation.collate x2Apics = .ok ordered)
    (numbered : collation.collate found = .ok processors) (distinct : (processors.map (·.id)).Nodup)
    (covered : processors.map (·.id) ⊆ ordered.map (·.id))
    (uids : ∀ fields ∈ ordered, ∃ processor ∈ processors,
      processor.id = fields.id ∧ processor.uid = fields.uid) :
    processors.map (·.id) = ordered.map (·.id) := by
  have place (j : Nat) (inside : j < ordered.length) :
      ∃ within : j < processors.length, processors[j].id = ordered[j].id := by
    obtain ⟨processor, member, id, uid⟩ := uids ordered[j] (List.getElem_mem inside)
    obtain ⟨within, rfl⟩ := getElem_of_uid collated numbered inside member uid
    exact ⟨within, id⟩
  have few : processors.length ≤ ordered.length := by
    have counted := (List.subperm_of_subset distinct covered).length_le
    rwa [List.length_map, List.length_map] at counted
  have many : ordered.length ≤ processors.length := by
    by_contra more
    obtain ⟨within, _⟩ := place processors.length (Nat.lt_of_not_le more)
    exact Nat.lt_irrefl _ within
  apply List.ext_getElem
  · simp only [List.length_map]
    exact Nat.le_antisymm few many
  · intro j _ inside
    rw [List.length_map] at inside
    obtain ⟨_, id⟩ := place j inside
    rw [List.getElem_map, List.getElem_map, id]

theorem uids_of_map_id_eq (collated : collation.collate x2Apics = .ok ordered)
    (numbered : collation.collate found = .ok processors)
    (same : processors.map (·.id) = ordered.map (·.id)) :
    ∀ fields ∈ ordered, ∃ processor ∈ processors,
      processor.id = fields.id ∧ processor.uid = fields.uid := by
  intro fields member
  obtain ⟨j, inside, rfl⟩ := List.getElem_of_mem member
  have size : processors.length = ordered.length := by simpa using congrArg List.length same
  have within : j < processors.length := size ▸ inside
  have id : processors[j].id = ordered[j].id := by
    have one : (processors.map (·.id))[j]? = (ordered.map (·.id))[j]? := by rw [same]
    simpa [inside, within] using one
  have here := Collation.uid_of_collate Processor.uid (fun _ _ => rfl) numbered within
  have there := Collation.uid_of_collate Madt.LocalX2Apic.uid (fun _ _ => rfl) collated inside
  exact ⟨processors[j], List.getElem_mem within, id, here.trans there.symm⟩

theorem uids_iff (collated : collation.collate x2Apics = .ok ordered)
    (numbered : collation.collate found = .ok processors) (distinct : (found.map (·.id)).Nodup)
    (members : ∀ id, id ∈ x2Apics.map (·.id) ↔ id ∈ found.map (·.id)) :
    (∀ fields ∈ ordered, ∃ processor ∈ processors,
        processor.id = fields.id ∧ processor.uid = fields.uid) ↔
      ∀ a b, collation.Before (found.map (·.id)) a b ↔ collation.Before (x2Apics.map (·.id)) a b := by
  have kept := Collation.perm_map_of_collate Processor.id (fun _ _ => rfl) numbered
  have left := Collation.perm_map_of_collate Madt.LocalX2Apic.id (fun _ _ => rfl) collated
  have first : processors.map (·.id) = @Collation.arrange _ Collation.identifiers collation
      (found.map (·.id)) := Collation.map_apicId_of_collate (fun _ _ => rfl) numbered
  have second : ordered.map (·.id) = @Collation.arrange _ Collation.identifiers collation
      (x2Apics.map (·.id)) := Collation.map_apicId_of_collate (fun _ _ => rfl) collated
  rw [← Collation.arrange_eq_iff distinct members, ← first, ← second]
  constructor
  · refine map_id_eq_of_uids collated numbered (kept.nodup_iff.mpr distinct) ?_
    intro id member
    exact left.mem_iff.mpr ((members id).mpr (kept.mem_iff.mp member))
  · exact uids_of_map_id_eq collated numbered

end Collated

theorem map_id_of_lists {listed : List ProcessorInfo} {ids : List UInt32} (topology : Topology.Decoder)
    (same : listed.map (·.id.toNat) = ids.map (·.toNat)) :
    (listed.map (Processor.ofInfo topology)).map (·.id) = ids := by
  have words := congrArg (List.map UInt32.ofNat) same
  have back : UInt32.ofNat ∘ (fun id : UInt32 => id.toNat) = fun id => id := by
    funext id
    exact UInt32.ofNat_toNat
  rw [List.map_map, List.map_map, back, List.map_id_fun'] at words
  rw [List.map_map]
  exact words

theorem Passed.exists_collated {board : Board} {before after : Machine} {report : BootReport}
    {listed : List ProcessorInfo} {merged : TableStore}
    (passed : board.Passed before after report listed merged) (patched : report.madt ≠ none) :
    ∃ key old x2Apics new ordered,
      before.tables.find Table.madtSignature none = some (key, old) ∧ Madt.HasX2Apics old x2Apics ∧
      (board.collation board.topology).collate x2Apics = .ok ordered ∧
      after.tables.tables.getLast? = some (some new) ∧ Madt.HasX2Apics new ordered := by
  obtain ⟨key, old, platform, found, ordered, there, patchable, collated, last⟩ :=
    passed.reinstalled patched
  have merges : board.Merges before report.processors report.dsdt merged := passed.devices
  have first : before.tables.find Table.madtSignature none = some (key, old) :=
    merges.find_madt.symm.trans there
  have walked := (Madt.patchableEntries_eq_ok_iff.mp patchable).1
  have holds := Madt.hasX2Apics_patchedTable platform (Madt.patchable_of_ok patchable) collated
  refine ⟨key, old, _, _, ordered, first, ⟨found, walked, rfl⟩, collated, ?_, holds⟩
  rw [last, TableStore.replaced, List.getLast?_concat]

/-- The UIDs of the two tables are the same just when no two processors are put the other way round by
the order in which the MADT was installed. -/
theorem boot_keepsUids_iff (board : Board) (before : Machine) (report : BootReport)
    (mpIds madtIds : List UInt32) (done : (board.boot.run before).result = .ok report)
    (patched : report.madt ≠ none) (inventory : board.Inventory before.tables mpIds madtIds) :
    KeepsUids (board.boot.run before).state.tables report.processors ↔
      ∀ a b, (board.collation board.topology).Before mpIds a b ↔
        (board.collation board.topology).Before madtIds a b := by
  obtain ⟨listed, merged, passed⟩ := boot_answers ⟨done, rfl⟩
  obtain ⟨key, old, x2Apics, new, ordered, there, has, collated, last, holds⟩ :=
    passed.exists_collated patched
  obtain ⟨_, lists, mp⟩ := inventory.processors
  obtain ⟨_, _, _, first, told, madt⟩ := inventory.x2Apics
  rw [there, Option.some.injEq, Prod.mk.injEq] at first
  obtain ⟨rfl, rfl⟩ := first
  rw [told.unique has] at madt
  rw [lists.unique passed.lists] at mp
  have ids := map_id_of_lists board.topology mp
  have distinct := inventory.distinct
  have same := inventory.same
  rw [← ids] at distinct same ⊢
  rw [← madt] at same ⊢
  -- What is left is about two lists of the same identifiers.
  rw [← uids_iff collated passed.collated distinct same]
  constructor
  · rintro ⟨newest, _, place, other, uids⟩
    rw [last, Option.some.injEq, Option.some.injEq] at place
    subst place
    rwa [other.unique holds] at uids
  · intro uids
    exact ⟨new, ordered, last, holds, uids⟩

def madtOf (ids : List UInt32) : Bytes :=
  Table.madtSignature.bytes ++ Bytes.word32 (UInt32.ofNat (44 + 16 * ids.length)) ++
    List.replicate 36 0 ++
    ids.flatMap fun id => (Madt.Structure.localX2Apic { id, flags := 1, uid := 9 }).encode

def withMadtOf (ids : List UInt32) : Machine where
  tables := { tables := [some installedDsdt, some (madtOf ids)] }
  structures := {}
  fabric := {}

theorem fourThreads_inventory :
    fourThreads.Inventory (withMadtOf [4, 2, 5, 3]).tables [2, 3, 4, 5] [4, 2, 5, 3] where
  processors := ⟨_, fourThreads_lists, by decide⟩
  x2Apics := by
    refine ⟨1, madtOf [4, 2, 5, 3],
      [⟨16, 0, 4, 1, 9⟩, ⟨16, 0, 2, 1, 9⟩, ⟨16, 0, 5, 1, 9⟩, ⟨16, 0, 3, 1, 9⟩], ?_,
      ⟨_, by cbv, by cbv⟩, by decide⟩
    cbv
  distinct := by decide
  same := by
    intro id
    simp only [List.mem_cons, List.not_mem_nil, or_false]
    tauto

theorem boot_keepsUids_iff_fourThreads :
    let before := withMadtOf [4, 2, 5, 3]
    let report : BootReport :=
      { fourThreadsReport with dsdt := 2, madt := some { x2Apics := 4 } }
    let collation := fourThreads.collation fourThreads.topology
    (fourThreads.boot.run before).result = .ok report ∧ report.madt ≠ none ∧
      fourThreads.Inventory before.tables [2, 3, 4, 5] [4, 2, 5, 3] ∧
      (KeepsUids (fourThreads.boot.run before).state.tables report.processors ↔
        ∀ a b, collation.Before [2, 3, 4, 5] a b ↔ collation.Before [4, 2, 5, 3] a b) := by
  intro before report collation
  have done : (fourThreads.boot.run before).result = .ok report := by cbv
  have patched : report.madt ≠ none := by decide
  exact ⟨done, patched, fourThreads_inventory,
    boot_keepsUids_iff fourThreads before report [2, 3, 4, 5] [4, 2, 5, 3] done patched
      fourThreads_inventory⟩

-- Two cores of one CCD, which nothing but their positions tells apart.
def twoCores : Board where
  config := {}
  cpuid _ subleaf :=
    if subleaf = 0 then { eax := 1, ecx := 0x100 }
    else if subleaf = 1 then { eax := 4, ecx := 0x200 }
    else { eax := 0, ecx := 0 }
  mp := ProcessorList.services { processors := [⟨0, 7⟩, ⟨2, 6⟩] }
  soc := .fixed (.ok [{ id := 7, address := 0xFEC00000, gsiBase := 0 }])
  ports _ := none
  nbio := none

def twoCoresReport : BootReport where
  processors := [(0, 7), (2, 6)].mapIdx fun u (id, status) =>
    { id, status, location := twoCores.topology.decode id, uid := UInt32.ofNat u }
  dsdt := 2
  madt := some { x2Apics := 2 }
  slotHandles := []

theorem twoCores_inventory : twoCores.Inventory (withMadtOf [2, 0]).tables [0, 2] [2, 0] where
  processors := by
    refine ⟨[⟨0, 7⟩, ⟨2, 6⟩], ⟨⟨2, by cbv⟩, ?_⟩, by decide⟩
    have told : ∀ i : Fin 2, twoCores.mp.info i.val =
        .ok ([⟨0, 7⟩, ⟨2, 6⟩] : List ProcessorInfo)[i] := by decide
    exact fun i inside => told ⟨i, inside⟩
  x2Apics := by
    refine ⟨1, madtOf [2, 0], [⟨16, 0, 2, 1, 9⟩, ⟨16, 0, 0, 1, 9⟩], ?_, ⟨_, by cbv, by cbv⟩, by decide⟩
    cbv
  distinct := by decide
  same := by
    intro id
    simp only [List.mem_cons, List.not_mem_nil, or_false]
    tauto

theorem not_keepsUids_twoCores :
    let before := withMadtOf [2, 0]
    (twoCores.boot.run before).result = .ok twoCoresReport ∧ twoCoresReport.madt ≠ none ∧
      twoCores.Inventory before.tables [0, 2] [2, 0] ∧
      ¬KeepsUids (twoCores.boot.run before).state.tables twoCoresReport.processors := by
  intro before
  have done : (twoCores.boot.run before).result = .ok twoCoresReport := by cbv
  refine ⟨done, by decide, twoCores_inventory, ?_⟩
  have read : ((twoCores.boot.run before).state.tables.tables.getLast?.bind id).map
      (fun madt => (Madt.entries madt).map (·.filterMap Madt.Entry.localX2Apic?)) =
        some (.ok [⟨16, 0, 2, 1, 0⟩, ⟨16, 0, 0, 1, 1⟩]) := by cbv
  rintro ⟨madt, _, last, ⟨found, walked, rfl⟩, uids⟩
  rw [last, Option.bind_some, id, Option.map_some, walked, Except.map, Option.some.injEq,
    Except.ok.injEq] at read
  rw [read] at uids
  have drifted : ¬∃ processor ∈ twoCoresReport.processors, processor.id = 2 ∧ processor.uid = 0 := by
    decide
  exact drifted (uids ⟨16, 0, 2, 1, 0⟩ (List.mem_cons_self ..))

end FirmwareTables.Board
