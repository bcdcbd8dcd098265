import FirmwareTables.Proofs.Collation.Numbered
import FirmwareTables.Proofs.Madt.InPlace
import FirmwareTables.Proofs.Table.Checksum

set_option autoImplicit false

namespace FirmwareTables.Madt

structure Patchable (table : Bytes) (found : List Entry) : Prop where
  framed : Framed table
  tiled : Tiled headerSize found
  covers : area found = (table.take (TableHeader.lengthField table)).drop headerSize
  even : Even found

theorem patchable_of_ok {table : Bytes} {found : List Entry}
    (patchable : patchableEntries table = .ok found) : Patchable table found := by
  obtain ⟨walked, even⟩ := patchableEntries_eq_ok_iff.mp patchable
  obtain ⟨framed, tiled, covers⟩ := entries_eq_ok_iff.mp walked
  exact ⟨framed, tiled, covers, even⟩

theorem Framed.long {table : Bytes} (framed : Framed table) : headerSize ≤ table.length :=
  Nat.le_trans framed.room framed.fits

theorem Patchable.split {table : Bytes} {found : List Entry} (ready : Patchable table found) :
    table = table.take headerSize ++ area found ++ table.drop (TableHeader.lengthField table) := by
  have declared : table.take headerSize ++ area found =
      table.take (TableHeader.lengthField table) := by
    have front := List.take_append_drop headerSize (table.take (TableHeader.lengthField table))
    rwa [List.take_take, Nat.min_eq_left ready.framed.room, ← ready.covers] at front
  rw [declared, List.take_append_drop]

theorem Patchable.length_area {table : Bytes} {found : List Entry} (ready : Patchable table found) :
    headerSize + (area found).length = TableHeader.lengthField table := by
  have room := ready.framed.room
  have fits := ready.framed.fits
  rw [ready.covers, List.length_drop, List.length_take]
  omega

theorem lengthField_lt (table : Bytes) : TableHeader.lengthField table < 2 ^ 32 := by
  have small := Bytes.ofLittleEndian_lt ((table.drop 4).take 4)
  have four : ((table.drop 4).take 4).length ≤ 4 := List.length_take_le _ _
  have bound : 256 ^ ((table.drop 4).take 4).length ≤ 256 ^ 4 := Nat.pow_le_pow_right (by decide) four
  exact Nat.lt_of_lt_of_le small bound

theorem Tiled.length_le {offset : Nat} {found : List Entry} (tiled : Tiled offset found) :
    found.length ≤ (area found).length := by
  induction found generalizing offset with
  | nil => simp
  | cons entry rest ih =>
    have two := tiled.2.1.1.two_le
    have later := ih tiled.2.2
    rw [area_cons, List.length_append, List.length_cons]
    omega

theorem Patchable.few {table : Bytes} {found : List Entry} (ready : Patchable table found) :
    (found.filterMap Entry.localX2Apic?).length < 2 ^ 32 := by
  have listed := List.length_filterMap_le Entry.localX2Apic? found
  have total := ready.tiled.length_le
  have declared := ready.length_area
  have small := lengthField_lt table
  omega

def revisedHeader (table : Bytes) : Bytes :=
  Bytes.overwrite revisionOffset [revision] (table.take headerSize)

theorem length_revisedHeader {table : Bytes} (long : headerSize ≤ table.length) :
    (revisedHeader table).length = headerSize := by
  have width : (table.take headerSize).length = headerSize := by
    rw [List.length_take, Nat.min_eq_left long]
  rw [revisedHeader, Bytes.length_overwrite (by rw [width]; decide), width]

theorem Patchable.overwrite_revision {table : Bytes} {found : List Entry}
    (ready : Patchable table found) :
    Bytes.overwrite revisionOffset [revision] table =
      revisedHeader table ++ area found ++ table.drop (TableHeader.lengthField table) := by
  have width : (table.take headerSize).length = headerSize := by
    rw [List.length_take, Nat.min_eq_left ready.framed.long]
  have inside : revisionOffset + [revision].length ≤ (table.take headerSize).length := by
    rw [width]
    decide
  have revised := @Bytes.overwrite_append [] (table.take headerSize)
    (area found ++ table.drop (TableHeader.lengthField table)) [revision] revisionOffset inside
  rwa [List.nil_append, List.nil_append, ← List.append_assoc, ← ready.split, List.length_nil,
    Nat.zero_add, ← revisedHeader, ← List.append_assoc] at revised

def patchedTable (platform : List IoApicInfo) (ordered : List LocalX2Apic) (found : List Entry)
    (table : Bytes) : Bytes :=
  Table.stampChecksum (revisedHeader table ++ area (patchedEntries platform 0 ordered found)) ++
    table.drop (TableHeader.lengthField table)

theorem length_area_of_alike {found patched : List Entry}
    (alike : List.Forall₂ Entry.Alike found patched) :
    (area patched).length = (area found).length := by
  induction alike with
  | nil => rfl
  | cons same _ ih => rw [area_cons, area_cons, List.length_append, List.length_append, ih, same.length]

theorem sized_of_collate {collation : Collation} {found : List Entry} {ordered : List LocalX2Apic}
    (even : Even found)
    (collated : collation.collate (found.filterMap Entry.localX2Apic?) = .ok ordered) :
    ∀ next ∈ ordered, next.length.toNat = localX2ApicSize := by
  intro next member
  obtain ⟨u, inside, rfl⟩ := List.getElem_of_mem member
  obtain ⟨fields, listed, place⟩ := Collation.exists_of_collate collated inside
  rw [place]
  exact @Even.length_eq found even fields listed

theorem filterMap_x2Apics (found : List Entry) :
    (found.filter (·.localX2Apic?.isSome)).filterMap (·.localX2Apic?) =
      found.filterMap Entry.localX2Apic? := by
  rw [List.filterMap_filter]
  congr 1
  funext entry
  cases entry.localX2Apic? <;> rfl

theorem Patchable.alike {collation : Collation} {table : Bytes} {found : List Entry}
    {ordered : List LocalX2Apic} (ready : Patchable table found) (platform : List IoApicInfo)
    (collated : collation.collate (found.filterMap Entry.localX2Apic?) = .ok ordered) :
    List.Forall₂ Entry.Alike found (patchedEntries platform 0 ordered found) :=
  alike_patchedEntries platform 0 ordered found ready.tiled.decoded ready.even
    (sized_of_collate ready.even collated)

theorem Patchable.length_patched {platform : List IoApicInfo} {table : Bytes} {found : List Entry}
    {ordered : List LocalX2Apic} (ready : Patchable table found)
    (alike : List.Forall₂ Entry.Alike found (patchedEntries platform 0 ordered found)) :
    (revisedHeader table ++ area (patchedEntries platform 0 ordered found)).length =
      TableHeader.lengthField table := by
  rw [List.length_append, length_revisedHeader ready.framed.long, length_area_of_alike alike,
    ready.length_area]

theorem patchBuffer_answers (platform : List IoApicInfo) (collation : Collation) {table : Bytes}
    {found : List Entry} {ordered : List LocalX2Apic}
    (patchable : patchableEntries table = .ok found)
    (collated : collation.collate (found.filterMap Entry.localX2Apic?) = .ok ordered) :
    (patchBuffer platform collation).Answers table.toArray
      { counted platform found with x2Apics := ordered.length }
      (patchedTable platform ordered found table).toArray := by
  have ready := patchable_of_ok patchable
  have declared := ready.length_patched (ready.alike platform collated)
  have placed : Tiled (revisedHeader table).length found := by
    rw [length_revisedHeader ready.framed.long]
    exact ready.tiled
  -- The three passes over the table, each from where the one before it left off.
  have first := patchStructures_answers platform [] (revisedHeader table)
    (table.drop (TableHeader.lengthField table)) placed
  have second := writeX2Apics_answers platform 0 ordered (revisedHeader table)
    (table.drop (TableHeader.lengthField table)) placed
  have third := stampDeclared_answers (table.drop (TableHeader.lengthField table))
    (Nat.le_trans ready.framed.declared (Nat.le_of_eq declared.symm))
  have zero : counted platform [] = {} := by simp [counted]
  rw [zero, List.nil_append, List.countP_nil, ← ready.overwrite_revision] at first
  rw [declared] at third
  unfold patchBuffer
  rw [Action.answers_get_bind, Action.answers_ofExcept_bind (Action.mapError_eq_ok.mpr patchable)]
  refine Action.answers_bind.mpr ⟨_, _, setRevision_answers ready.framed.long, ?_⟩
  refine Action.answers_bind.mpr ⟨_, _, first, ?_⟩
  simp only [filterMap_x2Apics]
  rw [Action.answers_ofExcept_bind (Action.mapError_eq_ok.mpr collated)]
  refine Action.answers_bind.mpr ⟨_, _, second, ?_⟩
  split
  · rw [report, Action.answers_report_bind]
    refine Action.answers_bind.mpr ⟨_, _, third, ?_⟩
    rw [report, Action.answers_report_bind]
    simp [patchedTable]
  · refine Action.answers_bind.mpr ⟨_, _, third, ?_⟩
    rw [report, Action.answers_report_bind]
    simp [patchedTable]

theorem patchBuffer_refuses (platform : List IoApicInfo) (collation : Collation) {table : Bytes}
    {cause : TableError} (unpatchable : patchableEntries table = .error cause) :
    (patchBuffer platform collation).Refuses table.toArray (.table cause) table.toArray := by
  refine Action.refuses_bind.mpr (Or.inr ⟨table.toArray, table.toArray, by simp, ?_⟩)
  refine Action.refuses_bind.mpr (Or.inl ?_)
  simp [unpatchable, Except.mapError]

def answered (soc : Soc) (work : Workspace) : Except ServiceError (List IoApicInfo) :=
  (soc.ioApics.run work.fabric).result

def asked (soc : Soc) (work : Workspace) : Workspace :=
  { work with fabric := (soc.ioApics.run work.fabric).state }

def Silent (soc : Soc) (work : Workspace) : Prop :=
  (∃ cause, answered soc work = .error cause) ∨ answered soc work = .ok []

theorem exists_of_not_silent {soc : Soc} {work : Workspace} (speaks : ¬Silent soc work) :
    ∃ info more, answered soc work = .ok (info :: more) := by
  match answer : answered soc work with
  | .error cause => exact absurd (Or.inl ⟨cause, answer⟩) speaks
  | .ok [] => exact absurd (Or.inr answer) speaks
  | .ok (info :: more) => exact ⟨info, more, rfl⟩

theorem ask_answers (soc : Soc) (work : Workspace) :
    ((soc.ioApics.attempt : Action Fabric AcpiError _).onPart (·.fabric)
      fun fabric (w : Workspace) => { w with fabric }).Answers work (answered soc work)
      (asked soc work) :=
  ⟨rfl, rfl⟩

theorem patchInPlace_of_silent (soc : Soc) (collation : Collation) {work : Workspace}
    (silent : Silent soc work) :
    (patchInPlace soc collation).Answers work none (asked soc work) := by
  refine Action.answers_bind.mpr ⟨_, _, ask_answers soc work, ?_⟩
  rcases silent with ⟨cause, answer⟩ | answer
  · simp [answer, report, Action.answers_report_bind]
  · simp [answer, report, Action.answers_report_bind]

section Speaking

variable {soc : Soc} {work : Workspace} {info : IoApicInfo} {more : List IoApicInfo}

theorem patchInPlace_of_ok (answer : answered soc work = .ok (info :: more))
    {collation : Collation} {found : List Entry} {ordered : List LocalX2Apic}
    (patchable : patchableEntries work.table = .ok found)
    (collated : collation.collate (found.filterMap Entry.localX2Apic?) = .ok ordered) :
    (patchInPlace soc collation).Answers work
      (some { counted (info :: more) found with x2Apics := ordered.length })
      { asked soc work with table := patchedTable (info :: more) ordered found work.table } := by
  have patched := patchBuffer_answers (info :: more) collation patchable collated
  refine Action.answers_bind.mpr ⟨_, _, ask_answers soc work, ?_⟩
  simp only [answer]
  refine Action.answers_bind.mpr ⟨_, _, Action.answers_onPart.mpr ⟨_, patched, rfl⟩, ?_⟩
  simp

theorem patchInPlace_of_error (answer : answered soc work = .ok (info :: more))
    (collation : Collation) {cause : TableError}
    (unpatchable : patchableEntries work.table = .error cause) :
    (patchInPlace soc collation).Refuses work (.table cause) (asked soc work) := by
  have refused := patchBuffer_refuses (info :: more) collation unpatchable
  refine Action.refuses_bind.mpr (Or.inr ⟨_, _, ask_answers soc work, ?_⟩)
  simp only [answer]
  exact Action.refuses_bind.mpr (Or.inl (Action.refuses_onPart.mpr ⟨_, refused, rfl⟩))

end Speaking

theorem exists_patchedTable {soc : Soc} {collation : Collation} {work work' : Workspace}
    {summary : PatchSummary}
    (done : (patchInPlace soc collation).Answers work (some summary) work') :
    ∃ (platform : List IoApicInfo) (found : List Entry) (ordered : List LocalX2Apic),
      answered soc work = .ok platform ∧ patchableEntries work.table = .ok found ∧
      collation.collate (found.filterMap Entry.localX2Apic?) = .ok ordered ∧
      summary = { counted platform found with x2Apics := ordered.length } ∧
      work'.table = patchedTable platform ordered found work.table := by
  obtain ⟨result, rfl⟩ := done
  by_cases silent : Silent soc work
  · rw [(patchInPlace_of_silent soc collation silent).1] at result
    cases result
  obtain ⟨info, more, answer⟩ := exists_of_not_silent silent
  match patchable : patchableEntries work.table with
  | .ok found =>
    have collated := Collation.collate_of_few collation (patchable_of_ok patchable).few
    obtain ⟨again, state⟩ := patchInPlace_of_ok answer patchable collated
    rw [again, Except.ok.injEq, Option.some.injEq] at result
    refine ⟨info :: more, found, _, answer, rfl, collated, result.symm, ?_⟩
    rw [state]
  | .error cause =>
    rw [(patchInPlace_of_error answer collation patchable).1] at result
    cases result

/-- Patching is all or nothing, and which of the two depends on the answer of the platform and on the
form of the table alone. -/
theorem patchInPlace_outcomes (soc : Soc) (collation : Collation) (work : Workspace) :
    let out := (patchInPlace soc collation).run work
    (out.result = .ok none ↔ Silent soc work) ∧
    ((∃ cause, out.result = .error cause) ↔ ¬Silent soc work ∧ ¬WellFormed work.table) ∧
    ((∃ summary, out.result = .ok (some summary)) ↔ ¬Silent soc work ∧ WellFormed work.table) ∧
    ((∃ summary, out.result = .ok (some summary)) ∨ out.state.table = work.table) := by
  intro out
  by_cases silent : Silent soc work
  · obtain ⟨result, state⟩ := patchInPlace_of_silent soc collation silent
    have kept : ((patchInPlace soc collation).run work).state.table = work.table := by
      rw [state]
      rfl
    simp [out, result, silent, kept]
  obtain ⟨info, more, answer⟩ := exists_of_not_silent silent
  match patchable : patchableEntries work.table with
  | .ok found =>
    have wellFormed : WellFormed work.table := wellFormed_iff.mpr ⟨found, patchable⟩
    have collated := Collation.collate_of_few collation (patchable_of_ok patchable).few
    obtain ⟨result, _⟩ := patchInPlace_of_ok answer patchable collated
    simp [out, result, silent, wellFormed]
  | .error cause =>
    have malformed : ¬WellFormed work.table := by
      rw [wellFormed_iff, patchable]
      simp
    obtain ⟨result, state⟩ := patchInPlace_of_error answer collation patchable
    have kept : ((patchInPlace soc collation).run work).state.table = work.table := by
      rw [state]
      rfl
    simp [out, result, silent, malformed, kept]

end FirmwareTables.Madt
