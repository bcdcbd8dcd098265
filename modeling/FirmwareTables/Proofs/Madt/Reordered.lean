import FirmwareTables.Proofs.Madt.Frame

set_option autoImplicit false

namespace FirmwareTables.Madt

def x2ApicPlaces (found : List Entry) : List Nat := (found.filter (·.isX2Apic)).map (·.offset)

abbrev x2Apics (found : List Entry) : List LocalX2Apic := found.filterMap Entry.localX2Apic?

def LocalX2Apic.record (fields : LocalX2Apic) : UInt16 × UInt32 × UInt32 :=
  (fields.reserved, fields.id, fields.flags)

structure Reordered (collation : Collation) (found found' : List Entry) : Prop where
  places : x2ApicPlaces found' = x2ApicPlaces found
  numbered : ∀ k (inside : k < (x2Apics found').length), (x2Apics found')[k].uid.toNat = k
  kept : ((x2Apics found').map (·.record)).Perm ((x2Apics found).map (·.record))
  collated : @Collation.collate _ Collation.identifiers collation ((x2Apics found).map (·.id)) =
    .ok ((x2Apics found').map (·.id))

theorem Entry.isX2Apic_patched (next : Option IoApicInfo) (entry : Entry) :
    (entry.patched next).isX2Apic = entry.isX2Apic := by
  unfold patched
  split <;> simp_all [isX2Apic, rewritten, Structure.number, ioApicType, interruptOverrideType,
    localX2ApicType, localX2ApicNmiType, reservedType]

-- An x2APIC is overwritten by an x2APIC, and no other structure becomes one.
theorem map_isX2Apic_patchedEntries (platform : List IoApicInfo) (k : Nat)
    (ordered : List LocalX2Apic) (found : List Entry) :
    (patchedEntries platform k ordered found).map (fun entry => (entry.offset, entry.isX2Apic)) =
      found.map fun entry => (entry.offset, entry.isX2Apic) := by
  fun_induction patchedEntries platform k ordered found with
  | case1 => rfl
  | case2 k entry rest fields next ordered isX2Apic ih =>
    have same : (entry.rewritten (.localX2Apic next)).isX2Apic = entry.isX2Apic := by
      simp [Entry.isX2Apic, Entry.rewritten, Entry.content_of_localX2Apic? isX2Apic,
        Structure.number]
    rw [List.map_cons, List.map_cons, ih, same]
    rfl
  | case3 k entry rest ordered stays ih =>
    have place : (entry.patched platform[k]?).offset = entry.offset := by
      unfold Entry.patched
      split <;> rfl
    rw [List.map_cons, List.map_cons, ih, Entry.isX2Apic_patched, place]

theorem x2ApicPlaces_eq (found : List Entry) :
    x2ApicPlaces found =
      ((found.map fun entry => (entry.offset, entry.isX2Apic)).filter (·.2)).map (·.1) := by
  rw [x2ApicPlaces, List.filter_map, List.map_map]
  rfl

theorem reordered_patchedEntries (platform : List IoApicInfo) {collation : Collation}
    {found : List Entry} {ordered : List LocalX2Apic}
    (collated : collation.collate (x2Apics found) = .ok ordered) :
    Reordered collation found (patchedEntries platform 0 ordered found) := by
  have listed : x2Apics (patchedEntries platform 0 ordered found) = ordered :=
    localX2Apics_patchedEntries platform 0 ordered found (Collation.length_of_collate collated)
  refine { places := ?_, numbered := ?_, kept := ?_, collated := ?_ }
  · rw [x2ApicPlaces_eq, x2ApicPlaces_eq, map_isX2Apic_patchedEntries]
  · rw [listed]
    intro k inside
    obtain ⟨item, _, place⟩ := Collation.exists_of_collate collated inside
    rw [place]
    exact Collation.toNat_place collated inside
  · rw [listed]
    exact Collation.perm_map_of_collate LocalX2Apic.record (fun _ _ => rfl) collated
  · rw [listed]
    exact Collation.collate_map_apicId (fun _ _ => rfl) collated

theorem patchInPlace_reorders (soc : Soc) (collation : Collation) (work : Workspace)
    (summary : PatchSummary)
    (done : ((patchInPlace soc collation).run work).result = .ok (some summary)) :
    ∃ found found', entries work.table = .ok found ∧
      entries ((patchInPlace soc collation).run work).state.table = .ok found' ∧
      Reordered collation found found' := by
  obtain ⟨platform, found, ordered, _, patchable, collated, _, table⟩ := exists_patchedTable ⟨done, rfl⟩
  have ready := patchable_of_ok patchable
  have walked := (patchableEntries_eq_ok_iff.mp patchable).1
  rw [table]
  exact ⟨found, _, walked, entries_patchedTable ready (ready.alike platform collated),
    reordered_patchedEntries platform collated⟩

-- Four threads of two cores, the second threads first, with other structures between them. One thread
-- is not enabled, and one has reserved bits.
def scatteredTable : Bytes :=
  Table.madtSignature.bytes ++ Bytes.word32 138 ++ List.replicate 36 0 ++
    (Structure.localX2Apic { id := 5, flags := 0, uid := 9 }).encode ++
    (Structure.ioApic { id := 1, address := 2, gsiBase := 3 }).encode ++
    (Structure.localX2Apic { id := 3, flags := 1, uid := 9, reserved := 7 }).encode ++
    [0x20, 0x02] ++
    (Structure.localX2Apic { id := 4, flags := 1, uid := 8 }).encode ++
    [0x21, 0x06, 0x09, 0x10, 0x00, 0x00] ++
    (Structure.interruptOverride { source := 0, gsi := 2, flags := 0 }).encode ++
    (Structure.localX2Apic { id := 2, flags := 3, uid := 8 }).encode

theorem patchInPlace_reorders_scatteredTable :
    let soc : Soc := .fixed (.ok [{ id := 7, address := 0xFEC00000, gsiBase := 24 }])
    let collation : Collation := ⟨.ofReports [(.smt, 1), (.ccd, 3)], .turin, false⟩
    let out := (patchInPlace soc collation).run ⟨scatteredTable, {}⟩
    let summary : PatchSummary := { ioApics := 1, interruptOverrides := 1, x2Apics := 4 }
    out.result = .ok (some summary) ∧
      ∃ found found', entries scatteredTable = .ok found ∧ entries out.state.table = .ok found' ∧
        Reordered collation found found' := by
  intro soc collation out summary
  have done : out.result = .ok (some summary) := by cbv
  exact ⟨done, patchInPlace_reorders soc collation ⟨scatteredTable, {}⟩ summary done⟩

end FirmwareTables.Madt
