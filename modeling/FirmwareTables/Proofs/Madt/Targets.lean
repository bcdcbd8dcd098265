import FirmwareTables.Proofs.Madt.Reordered
import FirmwareTables.Proofs.Madt.RoundTrip

set_option autoImplicit false

namespace FirmwareTables.Madt

def NmiAt (found : List Entry) (i : Nat) (fields : LocalX2ApicNmi) : Prop :=
  ∃ entry, found[i]? = some entry ∧ entry.content = .localX2ApicNmi fields

def Names (found : List Entry) (uid id : UInt32) : Prop :=
  ∃ fields ∈ x2Apics found, fields.uid = uid ∧ fields.id = id

-- The UID by which an NMI is for all processors.
def everyProcessor : UInt32 := 0xFFFFFFFF

theorem nmiAt_patchedEntries (platform : List IoApicInfo) (ordered : List LocalX2Apic)
    {found : List Entry} {i : Nat} {fields : LocalX2ApicNmi} (nmi : NmiAt found i fields) :
    NmiAt (patchedEntries platform 0 ordered found) i { fields with flags := nmiFlags } := by
  obtain ⟨entry, there, content⟩ := nmi
  obtain ⟨inside, rfl⟩ := List.getElem?_eq_some_iff.mp there
  have other : found[i].localX2Apic? = none := by
    simp only [Entry.localX2Apic?, content]
  refine ⟨_, getElem?_patchedEntries platform 0 ordered found i inside other, ?_⟩
  rw [Entry.patched_of_nmi content]
  rfl

theorem names_iff_of_collate {collation : Collation} {items : List LocalX2Apic} {found : List Entry}
    (collated : collation.collate items = .ok (x2Apics found)) (uid id : UInt32) :
    Names found uid id ↔ ((x2Apics found).map (·.id))[uid.toNat]? = some id := by
  have place {k : Nat} (inside : k < (x2Apics found).length) : (x2Apics found)[k].uid = UInt32.ofNat k :=
    Collation.uid_of_collate LocalX2Apic.uid (fun _ _ => rfl) collated inside
  rw [List.getElem?_map, Option.map_eq_some_iff]
  constructor
  · rintro ⟨fields, member, rfl, rfl⟩
    obtain ⟨k, inside, rfl⟩ := List.getElem_of_mem member
    refine ⟨_, ?_, rfl⟩
    rw [place inside, Collation.toNat_place collated inside, List.getElem?_eq_getElem inside]
  · rintro ⟨fields, there, rfl⟩
    obtain ⟨inside, rfl⟩ := List.getElem?_eq_some_iff.mp there
    refine ⟨_, List.getElem_mem inside, ?_, rfl⟩
    rw [place inside, UInt32.ofNat_toNat]

theorem patchInPlace_nmi_targets (soc : Soc) (collation : Collation) (work : Workspace)
    (summary : PatchSummary)
    (done : ((patchInPlace soc collation).run work).result = .ok (some summary)) :
    ∃ found found' ids, entries work.table = .ok found ∧
      entries ((patchInPlace soc collation).run work).state.table = .ok found' ∧
      @Collation.collate _ Collation.identifiers collation ((x2Apics found).map (·.id)) = .ok ids ∧
      ∀ i fields, NmiAt found i fields →
        NmiAt found' i { fields with flags := nmiFlags } ∧
        ∀ id, Names found fields.uid id →
          (Names found' fields.uid id ↔ ids[fields.uid.toNat]? = some id) := by
  obtain ⟨platform, found, ordered, _, patchable, collated, _, table⟩ := exists_patchedTable ⟨done, rfl⟩
  have ready := patchable_of_ok patchable
  have walked := (patchableEntries_eq_ok_iff.mp patchable).1
  have listed : x2Apics (patchedEntries platform 0 ordered found) = ordered :=
    localX2Apics_patchedEntries platform 0 ordered found (Collation.length_of_collate collated)
  have numbered : collation.collate (x2Apics found) =
      .ok (x2Apics (patchedEntries platform 0 ordered found)) := listed.symm ▸ collated
  rw [table]
  refine ⟨found, _, ordered.map (·.id), walked,
    entries_patchedTable ready (ready.alike platform collated),
    Collation.collate_map_apicId (fun _ _ => rfl) collated, ?_⟩
  intro i fields nmi
  refine ⟨nmiAt_patchedEntries platform ordered nmi, ?_⟩
  intro id _
  rw [names_iff_of_collate numbered, listed]

-- Threads by identifier and UID, and an NMI for the one with UID 1.
def targetedSources (threads : List (UInt32 × UInt32)) (flags : UInt16) : List Source :=
  threads.map (fun (id, uid) => .localX2Apic id uid true) ++ [.localX2ApicNmi 1 flags 1]

def targetedTable : Bytes :=
  Table.madtSignature.bytes ++ Bytes.word32 120 ++ List.replicate 36 0 ++
    (targetedSources [(0, 0), (1, 1), (2, 2), (3, 3)] 0).flatMap (·.bytes)

def targetedSoc : Soc := .fixed (.ok [{ id := 7, address := 0xFEC00000, gsiBase := 24 }])

def targetedCollation : Collation := ⟨.ofReports [(.smt, 1), (.ccd, 3)], .turin, false⟩

def targetedSummary : PatchSummary := { x2ApicNmis := 1, x2Apics := 4 }

theorem patchInPlace_targetedTable :
    ((patchInPlace targetedSoc targetedCollation).run ⟨targetedTable, {}⟩).result =
      .ok (some targetedSummary) := by cbv

theorem patchInPlace_nmi_targets_targetedTable :
    let out := (patchInPlace targetedSoc targetedCollation).run ⟨targetedTable, {}⟩
    out.result = .ok (some targetedSummary) ∧
      ∃ found found' ids, entries targetedTable = .ok found ∧ entries out.state.table = .ok found' ∧
        @Collation.collate _ Collation.identifiers targetedCollation ((x2Apics found).map (·.id)) =
          .ok ids ∧
        ∀ i fields, NmiAt found i fields →
          NmiAt found' i { fields with flags := nmiFlags } ∧
          ∀ id, Names found fields.uid id →
            (Names found' fields.uid id ↔ ids[fields.uid.toNat]? = some id) := by
  intro out
  exact ⟨patchInPlace_targetedTable, patchInPlace_nmi_targets targetedSoc targetedCollation
    ⟨targetedTable, {}⟩ targetedSummary patchInPlace_targetedTable⟩

-- The NMI for identifier 1 comes to name identifier 2.
theorem nmi_target_lost_targetedTable :
    let out := (patchInPlace targetedSoc targetedCollation).run ⟨targetedTable, {}⟩
    out.result = .ok (some targetedSummary) ∧
      ∃ found found' fields, entries targetedTable = .ok found ∧
        entries out.state.table = .ok found' ∧ ((x2Apics found).map (·.uid)).Nodup ∧
        NmiAt found 4 fields ∧ fields.uid ≠ everyProcessor ∧ Names found fields.uid 1 ∧
        ∀ fields', NmiAt found' 4 fields' → ¬Names found' fields'.uid 1 := by
  intro out
  have before : entries targetedTable =
      .ok (placed headerSize (targetedSources [(0, 0), (1, 1), (2, 2), (3, 3)] 0)) := by cbv
  have after : entries out.state.table =
      .ok (placed headerSize (targetedSources [(0, 0), (2, 1), (1, 2), (3, 3)] nmiFlags)) := by cbv
  refine ⟨patchInPlace_targetedTable, _, _, { flags := 0, uid := 1, lint := 1 }, before, after,
    by decide, ⟨_, rfl, rfl⟩, by decide, ?_, ?_⟩
  · exact ⟨.ofEnabled 1 1 true, by decide, rfl, rfl⟩
  · rintro fields' ⟨entry, there, content⟩ ⟨x2Apic, listed, uid, id⟩
    cases Option.some.inj there
    cases content
    revert x2Apic
    decide

end FirmwareTables.Madt
