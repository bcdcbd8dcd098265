import FirmwareTables.Proofs.Board.Stages
import FirmwareTables.Proofs.Collation.Numbered
import FirmwareTables.Proofs.Madt.Reinstalled
import FirmwareTables.Proofs.Processor.Listed

set_option autoImplicit false

namespace FirmwareTables.Board

-- The x2APIC at each position is that of the processor at this position, with the position as its UID.
def NumbersX2Apics (madt : Bytes) (processors : List Processor) : Prop :=
  ∃ x2Apics, Madt.HasX2Apics madt x2Apics ∧
    x2Apics.map (fun fields => (fields.id, fields.uid.toNat)) =
      processors.mapIdx fun u processor => (processor.id, u)

def ListsDevices (topology : Topology.Decoder) (old new : Bytes) (processors : List Processor) : Prop :=
  ∃ block, Table.bodyOf new = Table.bodyOf old ++ block ∧
    (∀ u ∈ Processor.presentPlaces processors, u.val < 4096) ∧
    Processor.Listing.ofBlock block = some ((Processor.presentPlaces processors).map fun u =>
      Processor.listing u.val (processors.get u).status (topology.decode (processors.get u).id) u.val)

-- The installed MADT has the x2APICs of the processors, in the order in which the services tell of them.
def InOrder (board : Board) (store : TableStore) : Prop :=
  ∃ key madt x2Apics listed,
    store.find Table.madtSignature none = some (key, madt) ∧ Madt.HasX2Apics madt x2Apics ∧
      board.mp.Lists listed ∧ x2Apics.map (·.id.toNat) = listed.map (·.id.toNat)

structure Agreed (board : Board) (before after : TableStore) (report : BootReport) : Prop where
  numbered : ∀ u (inside : u < report.processors.length), report.processors[u].uid.toNat = u
  tables : ∃ dsdtKey dsdt newDsdt madtKey madt newMadt,
    before.find Table.dsdtSignature (some board.config.dsdtTableId) = some (dsdtKey, dsdt) ∧
    before.find Table.madtSignature none = some (madtKey, madt) ∧
    after.tables =
      (before.tables.set dsdtKey none).set madtKey none ++ [some newDsdt, some newMadt] ∧
    report.dsdt = before.tables.length ∧
    ListsDevices board.topology dsdt newDsdt report.processors ∧
    NumbersX2Apics newMadt report.processors

section Pass

variable {board : Board} {before after : Machine} {report : BootReport} {listed : List ProcessorInfo}
  {merged : TableStore}

theorem Passed.place (passed : board.Passed before after report listed merged) {u : Nat}
    (inside : u < report.processors.length) :
    report.processors[u].uid.toNat = u ∧
      report.processors[u].location = board.topology.decode report.processors[u].id := by
  obtain ⟨found, member, same⟩ := Collation.exists_of_collate passed.collated inside
  obtain ⟨info, _, rfl⟩ := List.mem_map.mp member
  rw [same]
  exact ⟨Collation.toNat_place passed.collated inside, rfl⟩

theorem Passed.listsDevices (passed : board.Passed before after report listed merged) :
    ∃ key old new,
      before.tables.find Table.dsdtSignature (some board.config.dsdtTableId) = some (key, old) ∧
      ListsDevices board.topology old new report.processors ∧
      report.dsdt = before.tables.tables.length ∧ merged = before.tables.replaced key new := by
  obtain ⟨key, old, table, extended, block, found, parsed, built, appended, place, rfl⟩ :=
    TableStore.installDevices_answers passed.devices
  refine ⟨key, old, extended.toBytes, found, ⟨block, ?_, ?_, ?_⟩, place, rfl⟩
  · exact Table.bodyOf_append parsed appended
  · exact (Processor.readBlock_devicesBlock built).1
  · rw [Processor.ofBlock_devicesBlock built, Option.some.injEq]
    apply List.map_congr_left
    intro u _
    obtain ⟨uid, location⟩ := passed.place u.isLt
    rw [List.get_eq_getElem, uid, location]

theorem Passed.reinstalled (passed : board.Passed before after report listed merged)
    (patched : report.madt ≠ none) :
    ∃ key table platform found ordered,
      merged.find Table.madtSignature none = some (key, table) ∧
      Madt.patchableEntries table = .ok found ∧
      (board.collation board.topology).collate (found.filterMap Madt.Entry.localX2Apic?) =
        .ok ordered ∧
      after.tables = merged.replaced key (Madt.patchedTable platform ordered found table) := by
  obtain ⟨platform, done, same⟩ := passed.patched
  match summary : report.madt with
  | none => exact absurd summary patched
  | some counted =>
    rw [summary] at done
    obtain ⟨key, table, ioApics, found, ordered, there, _, patchable, collated, last⟩ :=
      Madt.patchInstalled_answers done
    exact ⟨key, table, ioApics, found, ordered, there, patchable, collated, same.trans last⟩

end Pass

theorem map_apicId_of_inOrder {x2Apics : List Madt.LocalX2Apic} {listed : List ProcessorInfo}
    (topology : Topology.Decoder) (same : x2Apics.map (·.id.toNat) = listed.map (·.id.toNat)) :
    x2Apics.map apicId = (listed.map (Processor.ofInfo topology)).map apicId := by
  have words := congrArg (List.map UInt32.ofNat) same
  rw [List.map_map, List.map_map] at words
  have left : x2Apics.map apicId = x2Apics.map (UInt32.ofNat ∘ fun fields => fields.id.toNat) := by
    apply List.map_congr_left
    intro fields _
    exact UInt32.ofNat_toNat.symm
  rw [left, words, List.map_map]
  rfl

theorem numbered_alike {collation : Collation} {x2Apics ordered : List Madt.LocalX2Apic}
    {found processors : List Processor} (same : x2Apics.map apicId = found.map apicId)
    (collated : collation.collate x2Apics = .ok ordered)
    (numbered : collation.collate found = .ok processors) :
    ordered.map (fun fields => (fields.id, fields.uid.toNat)) =
      processors.mapIdx fun u processor => (processor.id, u) := by
  have ids := Collation.map_apicId_eq_of_collate (fun _ _ => rfl) (fun _ _ => rfl) same collated numbered
  have size : ordered.length = processors.length := by
    simpa using congrArg List.length ids
  apply List.ext_getElem
  · rw [List.length_map, List.length_mapIdx, size]
  · intro u inside _
    rw [List.length_map] at inside
    have within : u < processors.length := size ▸ inside
    have id : apicId ordered[u] = apicId processors[u] := by
      have one : (ordered.map apicId)[u]? = (processors.map apicId)[u]? := by rw [ids]
      simpa [inside, within] using one
    obtain ⟨item, _, place⟩ := Collation.exists_of_collate collated inside
    have uid : ordered[u].uid.toNat = u := by
      rw [place]
      exact Collation.toNat_place collated inside
    rw [List.getElem_map, List.getElem_mapIdx, uid]
    exact congrArg (·, u) id

theorem boot_numbers_agree (board : Board) (before : Machine) (report : BootReport)
    (done : (board.boot.run before).result = .ok report) (patched : report.madt ≠ none)
    (inOrder : board.InOrder before.tables) :
    board.Agreed before.tables (board.boot.run before).state.tables report := by
  obtain ⟨listed, merged, passed⟩ := boot_answers ⟨done, rfl⟩
  obtain ⟨dsdtKey, dsdt, newDsdt, dsdtFound, devices, place, rfl⟩ := passed.listsDevices
  obtain ⟨madtKey, madt, platform, found, ordered, madtFound, patchable, collated, last⟩ :=
    passed.reinstalled patched
  obtain ⟨key, first, x2Apics, told, firstFound, has, lists, same⟩ := inOrder
  have dsdtAt := TableStore.find_eq_some_iff.mp dsdtFound
  -- The MADT that is patched is the one that was there before, since the new DSDT is no MADT.
  have other := TableStore.isMatch_of_other_signature Table.madtSignature (by decide)
    dsdtAt.passes none
  have again := TableStore.find_replaced firstFound dsdtAt.place other newDsdt
  rw [again, Option.some.injEq, Prod.mk.injEq] at madtFound
  obtain ⟨rfl, rfl⟩ := madtFound
  have ready := Madt.patchable_of_ok patchable
  have walked := (Madt.patchableEntries_eq_ok_iff.mp patchable).1
  rw [has.unique ⟨found, walked, rfl⟩, lists.unique passed.lists] at same
  have numbered := numbered_alike (map_apicId_of_inOrder board.topology same) collated passed.collated
  have inside : key < before.tables.tables.length :=
    (List.getElem?_eq_some_iff.mp (TableStore.find_eq_some_iff.mp firstFound).place).1
  refine ⟨fun u within => (passed.place within).1, dsdtKey, dsdt, newDsdt, key, first,
    Madt.patchedTable platform ordered found first, dsdtFound, firstFound, ?_, place, devices,
    ordered, Madt.hasX2Apics_patchedTable platform ready collated, numbered⟩
  rw [last, TableStore.replaced, TableStore.replaced,
    List.set_append_left _ _ (by rwa [List.length_set]), List.append_assoc]
  rfl

-- Two CCDs of one core each; the one with the lower number is placed last. One thread is missing.
def fourThreads : Board where
  config := {}
  cpuid _ subleaf :=
    if subleaf = 0 then { eax := 1, ecx := 0x100 }
    else if subleaf = 1 then { eax := 3, ecx := 0x400 }
    else { eax := 0, ecx := 0 }
  mp := ProcessorList.services { processors := [⟨2, 7⟩, ⟨3, 7⟩, ⟨4, 7⟩, ⟨5, 0⟩] }
  soc := .fixed (.ok [{ id := 7, address := 0xFEC00000, gsiBase := 0 }])
  ports _ := none
  nbio := none

def installedDsdt : Bytes :=
  Table.dsdtSignature.bytes ++ Bytes.word32 38 ++ List.replicate 8 0 ++
    [0x41, 0x6D, 0x64, 0x54, 0x61, 0x62, 0x6C, 0x65] ++ List.replicate 12 0 ++ [0xA3, 0xA3, 0xFF]

def installedMadt : Bytes :=
  Table.madtSignature.bytes ++ Bytes.word32 120 ++ List.replicate 36 0 ++
    (Madt.Structure.localX2Apic { id := 2, flags := 1, uid := 9 }).encode ++
    (Madt.Structure.localX2Apic { id := 3, flags := 1, uid := 9 }).encode ++
    (Madt.Structure.ioApic { id := 1, address := 2, gsiBase := 3 }).encode ++
    (Madt.Structure.localX2Apic { id := 4, flags := 1, uid := 9 }).encode ++
    (Madt.Structure.localX2Apic { id := 5, flags := 0, uid := 9 }).encode

def installedTables : Machine where
  tables := { tables := [some installedMadt, none, some installedDsdt] }
  structures := {}
  fabric := {}

def fourThreadsReport : BootReport where
  processors := [(4, 7), (2, 7), (5, 0), (3, 7)].mapIdx fun u (id, status) =>
    { id, status, location := fourThreads.topology.decode id, uid := UInt32.ofNat u }
  dsdt := 3
  madt := some { ioApics := 1, x2Apics := 4 }
  slotHandles := []

theorem fourThreads_lists : fourThreads.mp.Lists [⟨2, 7⟩, ⟨3, 7⟩, ⟨4, 7⟩, ⟨5, 0⟩] := by
  refine ⟨⟨3, by cbv⟩, ?_⟩
  have told : ∀ i : Fin 4, fourThreads.mp.info i.val =
      .ok ([⟨2, 7⟩, ⟨3, 7⟩, ⟨4, 7⟩, ⟨5, 0⟩] : List ProcessorInfo)[i] := by decide
  exact fun i inside => told ⟨i, inside⟩

theorem fourThreads_inOrder : fourThreads.InOrder installedTables.tables := by
  refine ⟨0, installedMadt, [⟨16, 0, 2, 1, 9⟩, ⟨16, 0, 3, 1, 9⟩, ⟨16, 0, 4, 1, 9⟩, ⟨16, 0, 5, 0, 9⟩],
    [⟨2, 7⟩, ⟨3, 7⟩, ⟨4, 7⟩, ⟨5, 0⟩], ?_, ?_, fourThreads_lists, ?_⟩
  · cbv
  · exact ⟨_, by cbv, by cbv⟩
  · cbv

theorem boot_numbers_agree_fourThreads :
    (fourThreads.boot.run installedTables).result = .ok fourThreadsReport ∧
      fourThreadsReport.madt ≠ none ∧ fourThreads.InOrder installedTables.tables ∧
      fourThreads.Agreed installedTables.tables (fourThreads.boot.run installedTables).state.tables
        fourThreadsReport := by
  have done : (fourThreads.boot.run installedTables).result = .ok fourThreadsReport := by cbv
  have patched : fourThreadsReport.madt ≠ none := by decide
  exact ⟨done, patched, fourThreads_inOrder,
    boot_numbers_agree fourThreads installedTables fourThreadsReport done patched fourThreads_inOrder⟩

end FirmwareTables.Board
