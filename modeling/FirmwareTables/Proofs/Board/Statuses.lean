import FirmwareTables.Proofs.Board.Agreement
import FirmwareTables.Proofs.Board.Staged
import FirmwareTables.Proofs.Processor.Pieces

set_option autoImplicit false

namespace FirmwareTables

structure MpServices.SameIds (one two : MpServices) : Prop where
  total : one.count.map (·.1) = two.count.map (·.1)
  id : ∀ i, (one.info i).map (·.id) = (two.info i).map (·.id)

theorem MpServices.SameIds.map_id {one two : MpServices} {listed others : List ProcessorInfo}
    (same : one.SameIds two) (first : one.Lists listed) (second : two.Lists others) :
    listed.map (·.id) = others.map (·.id) := by
  obtain ⟨_, counted⟩ := first.count
  obtain ⟨_, countedAgain⟩ := second.count
  have size : listed.length = others.length := by
    have total := same.total
    rw [counted, countedAgain] at total
    exact Except.ok.inj total
  apply List.ext_getElem
  · simp [size]
  · intro i inside within
    simp only [List.length_map] at inside within
    have told := same.id i
    simpa [first.info i inside, second.info i within, Except.map] using told

theorem ProcessorList.sameIds {one two : List ProcessorInfo}
    (same : one.map (·.id) = two.map (·.id)) :
    (services { processors := one }).SameIds (services { processors := two }) where
  total := by
    have size : one.length = two.length := by simpa using congrArg List.length same
    exact congrArg Except.ok size
  id := by
    intro i
    have place : one[i]?.map (·.id) = two[i]?.map (·.id) := by
      simp only [← List.getElem?_map, same]
    simp only [services, List.getElem?_toArray]
    cases first : one[i]? <;> cases second : two[i]? <;> simp_all [Except.map]

def MpServices.TellOf (mp : MpServices) (order : List Nat) (processors : List Processor) : Prop :=
  List.Forall₂ (fun i processor => ∃ info, mp.info i = .ok info ∧
    processor.id = info.id.toUInt32 ∧ processor.status = info.status) order processors

def Processor.withoutStatus (processor : Processor) : Processor := { processor with status := 0 }

namespace Board

section Pass

variable {board : Board} {before after : Machine} {report : BootReport} {listed : List ProcessorInfo}
  {merged : TableStore}

theorem map_apicId_ofInfo (topology : Topology.Decoder) (listed : List ProcessorInfo) :
    (listed.map (Processor.ofInfo topology)).map apicId = (listed.map (·.id)).map (·.toUInt32) := by
  rw [List.map_map, List.map_map]
  rfl

theorem Passed.tellOf (passed : board.Passed before after report listed merged) :
    board.mp.TellOf
      ((board.collation board.topology).order ((listed.map (·.id)).map (·.toUInt32)))
      report.processors := by
  have sources := Collation.forall₂_order passed.collated
  rw [map_apicId_ofInfo] at sources
  refine sources.imp ?_
  intro i processor from_place
  obtain ⟨source, uid, there, rfl⟩ := from_place
  rw [List.getElem?_map, Option.map_eq_some_iff] at there
  obtain ⟨info, told, rfl⟩ := there
  obtain ⟨inside, rfl⟩ := List.getElem?_eq_some_iff.mp told
  exact ⟨listed[i], passed.lists.info i inside, rfl, rfl⟩

theorem Passed.length_processors (passed : board.Passed before after report listed merged) :
    report.processors.length = listed.length := by
  rw [Collation.length_of_collate passed.collated, List.length_map]

-- Without their statuses, the processors are the collated list of the identifiers.
theorem Passed.collated_withoutStatus (passed : board.Passed before after report listed merged) :
    (board.collation board.topology).collate
        ((listed.map (·.id)).map fun id => Processor.ofInfo board.topology ⟨id, 0⟩) =
      .ok (report.processors.map Processor.withoutStatus) := by
  have bare := Collation.collate_map Processor.withoutStatus (fun _ => rfl) (fun _ _ => rfl)
    passed.collated
  rw [List.map_map] at bare
  rw [List.map_map]
  exact bare

-- The DSDT with the devices of the processors appended, cut into pieces.
def Appends (old new : Bytes) (processors : List Processor) (device : Nat → Bytes) : Prop :=
  ∃ block, Table.bodyOf new = Table.bodyOf old ++ block ∧
    Processor.HoldsDevices block processors device

theorem Passed.appends (passed : board.Passed before after report listed merged) {key : Nat}
    {new : Bytes} (extended : board.ExtendsDsdt before.tables report.processors key new) :
    ∃ old, before.tables.find Table.dsdtSignature (some board.config.dsdtTableId) = some (key, old) ∧
      Appends old new report.processors (Processor.deviceAt report.processors) := by
  obtain ⟨old, table, block, merged, found, parsed, built, appended, rfl⟩ := extended
  have numbered : ∀ u (inside : u < report.processors.length), report.processors[u].uid.toNat = u :=
    fun u inside => (passed.place inside).1
  exact ⟨old, found, block, Table.bodyOf_append parsed appended,
    Processor.holdsDevices_devicesBlock numbered built⟩

theorem Passed.asked (passed : board.Passed before after report listed merged) :
    ∃ key table patched, before.tables.find Table.madtSignature none = some (key, table) ∧
      (Madt.patchInPlace board.soc (board.collation board.topology)).Answers
        { table, fabric := before.fabric } report.madt patched := by
  have merges : board.Merges before report.processors report.dsdt merged := passed.devices
  obtain ⟨platform, patched, _⟩ := passed.patched
  obtain ⟨key, table, copy, fabric, found, answered, _⟩ := Madt.patchInstalled_asked patched
  exact ⟨key, table, _, merges.find_madt.symm.trans found, answered⟩

end Pass

theorem ExtendsDsdt.key_eq {board : Board} {before : TableStore} {processors others : List Processor}
    {one two : Nat} {newOne newTwo : Bytes}
    (first : board.ExtendsDsdt before processors one newOne)
    (second : board.ExtendsDsdt before others two newTwo) : one = two := by
  obtain ⟨_, _, _, _, found, _⟩ := first
  obtain ⟨_, _, _, _, again, _⟩ := second
  cases found.symm.trans again
  rfl

theorem PatchesMadt.unique {board : Board} {before : Machine} {summary : Madt.PatchSummary}
    {one two : Nat} {newOne newTwo : Bytes} (first : board.PatchesMadt before summary one newOne)
    (second : board.PatchesMadt before summary two newTwo) : one = two ∧ newOne = newTwo := by
  obtain ⟨old, fabric, found, patched⟩ := first
  obtain ⟨other, after, again, patchedAgain⟩ := second
  cases found.symm.trans again
  have workspaces := (patched.unique patchedAgain).2
  exact ⟨rfl, congrArg Madt.Workspace.table workspaces⟩

def withServices (board : Board) (mp : MpServices) : Board := { board with mp }

structure Steady (board : Board) (mp : MpServices) (before : Machine) (one two : BootReport)
    (afterOne afterTwo : TableStore) : Prop where
  processors :
    one.processors.map Processor.withoutStatus = two.processors.map Processor.withoutStatus
  order : ∃ order, order.Perm (List.range one.processors.length) ∧
    board.mp.TellOf order one.processors ∧ mp.TellOf order two.processors
  dsdt : one.dsdt = two.dsdt
  madt : one.madt = two.madt
  devices : ∃ key old newOne newTwo deviceOne deviceTwo,
    before.tables.find Table.dsdtSignature (some board.config.dsdtTableId) = some (key, old) ∧
    afterOne.tables[one.dsdt]? = some (some newOne) ∧
    afterTwo.tables[one.dsdt]? = some (some newTwo) ∧
    Appends old newOne one.processors deviceOne ∧ Appends old newTwo two.processors deviceTwo ∧
    ∀ u (inside : u < one.processors.length) (within : u < two.processors.length),
      one.processors[u].status = two.processors[u].status → deviceOne u = deviceTwo u
  patched : ∀ summary, one.madt = some summary → ∃ key new,
    board.PatchesMadt before summary key new ∧
    afterOne.tables[one.dsdt + 1]? = some (some new) ∧
    afterTwo.tables[one.dsdt + 1]? = some (some new)
  others : ∀ key, key ≠ one.dsdt → afterOne.tables[key]? = afterTwo.tables[key]?

section Both

variable {board : Board} {mp : MpServices} {before afterOne afterTwo : Machine}
  {one two : BootReport} {listed others : List ProcessorInfo} {mergedOne mergedTwo : TableStore}

theorem tables_of_installed (first : board.Installed before afterOne one)
    (second : (board.withServices mp).Installed before afterTwo two) (madt : one.madt = two.madt) :
    ∃ kept patched key newOne newTwo, kept.length = one.dsdt ∧
      board.ExtendsDsdt before.tables one.processors key newOne ∧
      board.ExtendsDsdt before.tables two.processors key newTwo ∧
      (∀ summary, one.madt = some summary →
        ∃ place new, board.PatchesMadt before summary place new ∧ patched = [some new]) ∧
      afterOne.tables.tables = kept ++ some newOne :: patched ∧
      afterTwo.tables.tables = kept ++ some newTwo :: patched := by
  obtain ⟨key, newOne, extendsOne, tablesOne⟩ := first.tables
  obtain ⟨again, newTwo, extendsTwo, tablesTwo⟩ := second.tables
  have extendsTwo : board.ExtendsDsdt before.tables two.processors again newTwo := extendsTwo
  have same := extendsOne.key_eq extendsTwo
  subst same
  rw [← madt] at tablesTwo
  cases summary : one.madt with
  | none =>
    rw [summary] at tablesOne tablesTwo
    exact ⟨_, [], key, newOne, newTwo, by rw [List.length_set, first.place], extendsOne, extendsTwo,
      nofun, tablesOne, tablesTwo⟩
  | some counted =>
    rw [summary] at tablesOne tablesTwo
    obtain ⟨place, new, patchesOne, tablesOne⟩ := tablesOne
    obtain ⟨placeTwo, newMadt, patchesTwo, tablesTwo⟩ := tablesTwo
    have patchesTwo : board.PatchesMadt before counted placeTwo newMadt := patchesTwo
    obtain ⟨rfl, rfl⟩ := patchesOne.unique patchesTwo
    refine ⟨_, [some new], key, newOne, newTwo, ?_, extendsOne, extendsTwo, ?_, tablesOne, tablesTwo⟩
    · rw [List.length_set, List.length_set, first.place]
    · intro other same
      cases same
      exact ⟨place, new, patchesOne, rfl⟩

theorem madt_of_passed (first : board.Passed before afterOne one listed mergedOne)
    (second : (board.withServices mp).Passed before afterTwo two others mergedTwo) :
    one.madt = two.madt := by
  obtain ⟨key, table, patched, found, answered⟩ := first.asked
  obtain ⟨_, _, _, again, answeredAgain⟩ := second.asked
  cases found.symm.trans again
  exact (answered.unique answeredAgain).1

theorem deviceAt_eq_of_status {processors others : List Processor}
    (same : processors.map Processor.withoutStatus = others.map Processor.withoutStatus)
    {u : Nat} (inside : u < processors.length) (within : u < others.length)
    (status : processors[u].status = others[u].status) :
    Processor.deviceAt processors u = Processor.deviceAt others u := by
  have place := List.getElem_of_eq same (by simpa using inside)
  simp only [List.getElem_map, Processor.withoutStatus, Processor.mk.injEq] at place
  obtain ⟨_, _, location, uid⟩ := place
  rw [Processor.deviceAt_eq inside, Processor.deviceAt_eq within]
  exact Processor.deviceBytes_congr u status location uid

theorem steady_of_passed (same : board.mp.SameIds mp)
    (first : board.Passed before afterOne one listed mergedOne)
    (second : (board.withServices mp).Passed before afterTwo two others mergedTwo) :
    board.Steady mp before one two afterOne.tables afterTwo.tables := by
  have ids : listed.map (·.id) = others.map (·.id) := same.map_id first.lists second.lists
  have madt := madt_of_passed first second
  have processors :
      one.processors.map Processor.withoutStatus = two.processors.map Processor.withoutStatus := by
    have bare := first.collated_withoutStatus
    have bareAgain := second.collated_withoutStatus
    rw [ids] at bare
    exact Except.ok.inj (bare.symm.trans bareAgain)
  obtain ⟨kept, patched, key, newOne, newTwo, size, extendsOne, extendsTwo, patches, tablesOne,
    tablesTwo⟩ := tables_of_installed first.installed second.installed madt
  obtain ⟨old, found, appendsOne⟩ := first.appends extendsOne
  obtain ⟨other, again, appendsTwo⟩ := second.appends extendsTwo
  cases found.symm.trans again
  exact {
    processors
    order := by
      refine ⟨_, ?_, first.tellOf, ?_⟩
      · have perm := Collation.order_perm (board.collation board.topology)
          ((listed.map (·.id)).map (·.toUInt32))
        rwa [List.length_map, List.length_map, ← first.length_processors] at perm
      · rw [ids]
        exact second.tellOf
    dsdt := first.installed.place.trans second.installed.place.symm
    madt
    devices := by
      refine ⟨key, old, newOne, newTwo, _, _, found, ?_, ?_, appendsOne, appendsTwo, ?_⟩
      · simp [tablesOne, ← size]
      · simp [tablesTwo, ← size]
      · intro u inside within status
        exact deviceAt_eq_of_status processors inside within status
    patched := by
      intro summary counted
      obtain ⟨place, new, patch, rfl⟩ := patches summary counted
      refine ⟨place, new, patch, ?_, ?_⟩
      · simp [tablesOne, ← size]
      · simp [tablesTwo, ← size]
    others := by
      intro place apart
      rw [← size] at apart
      have changed : afterTwo.tables.tables = afterOne.tables.tables.set kept.length (some newTwo) := by
        simp [tablesOne, tablesTwo]
      rw [changed, List.getElem?_set_ne apart.symm] }

end Both

theorem boot_steady (board : Board) (mp : MpServices) (before : Machine) (one two : BootReport)
    (same : board.mp.SameIds mp) (first : (board.boot.run before).result = .ok one)
    (second : ((board.withServices mp).boot.run before).result = .ok two) :
    board.Steady mp before one two (board.boot.run before).state.tables
      ((board.withServices mp).boot.run before).state.tables := by
  obtain ⟨_, _, passed⟩ := boot_answers ⟨first, rfl⟩
  obtain ⟨_, _, passedAgain⟩ := boot_answers ⟨second, rfl⟩
  exact steady_of_passed same passed passedAgain

-- The second thread of one core is gone, and that of the other is there and not enabled.
def otherStatuses : MpServices :=
  ProcessorList.services { processors := [⟨2, 7⟩, ⟨3, 0⟩, ⟨4, 7⟩, ⟨5, 6⟩] }

def otherStatusesReport : BootReport where
  processors := [(4, 7), (2, 7), (5, 6), (3, 0)].mapIdx fun u (id, status) =>
    { id, status, location := fourThreads.topology.decode id, uid := UInt32.ofNat u }
  dsdt := 3
  madt := some { ioApics := 1, x2Apics := 4 }
  slotHandles := []

theorem boot_otherStatuses :
    ((fourThreads.withServices otherStatuses).boot.run installedTables).result =
      .ok otherStatusesReport := by
  cbv

theorem boot_steady_fourThreads :
    fourThreads.mp.SameIds otherStatuses ∧
      (fourThreads.boot.run installedTables).result = .ok fourThreadsReport ∧
      ((fourThreads.withServices otherStatuses).boot.run installedTables).result =
        .ok otherStatusesReport ∧
      fourThreads.Steady otherStatuses installedTables fourThreadsReport otherStatusesReport
        (fourThreads.boot.run installedTables).state.tables
        ((fourThreads.withServices otherStatuses).boot.run installedTables).state.tables := by
  have same : fourThreads.mp.SameIds otherStatuses := by
    apply ProcessorList.sameIds
    rfl
  have first : (fourThreads.boot.run installedTables).result = .ok fourThreadsReport := by cbv
  exact ⟨same, first, boot_otherStatuses, boot_steady fourThreads otherStatuses installedTables
    fourThreadsReport otherStatusesReport same first boot_otherStatuses⟩

end Board

end FirmwareTables
