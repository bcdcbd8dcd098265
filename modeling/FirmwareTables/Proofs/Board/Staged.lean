import FirmwareTables.Proofs.Board.Stages
import FirmwareTables.Proofs.Madt.Reinstalled
import FirmwareTables.Proofs.Smbios.Published

set_option autoImplicit false

namespace FirmwareTables

theorem Topology.not_detect_refuses {σ ε : Type} {cpuid : Cpuid} {s s' : σ} {e : ε} :
    ¬(detect cpuid : Action σ ε Decoder).Refuses s e s' := by
  intro refused
  have answered : (detect cpuid : Action σ ε Decoder).Answers s (.ofCpuid cpuid) s :=
    detect_answers.mpr ⟨rfl, rfl⟩
  have both := answered.1.symm.trans refused.1
  cases both

theorem Processor.enumerate_refuses {σ : Type} {mp : MpServices} {decoder : Topology.Decoder} {s s' : σ}
    {e : CollationError} (refused : (enumerate mp decoder).Refuses s e s') : s' = s := by
  rcases Action.refuses_ofExcept_bind_iff.mp refused with ⟨_, rfl⟩ | ⟨⟨total, enabled⟩, _, reading⟩
  · rfl
  · rw [Action.refuses_report_bind] at reading
    split at reading
    · exact (Action.refuses_fail.mp reading).2
    · exact (Action.refuses_ofExcept.mp reading).2

namespace Board

section Stages

variable (board : Board) (before : Machine)

def Merges (processors : List Processor) (dsdt : Nat) (merged : TableStore) : Prop :=
  (TableStore.installDevices processors board.config).Answers before.tables dsdt merged

def platformAfter (merged : TableStore) : Madt.Platform := { tables := merged, fabric := before.fabric }

inductive Stopped : BootError → Machine → Prop
  | config (cause : ConfigError) : Stopped (.config cause) before
  | collation (cause : CollationError) : Stopped (.collation cause) before
  | devices {processors : List Processor} {cause : AcpiError} {tables : TableStore}
      (refused :
        (TableStore.installDevices processors board.config).Refuses before.tables cause tables) :
      Stopped (.acpi cause) { before with tables }
  | madt {processors : List Processor} {dsdt : Nat} {merged : TableStore} {cause : AcpiError}
      {platform : Madt.Platform} (merges : Merges board before processors dsdt merged)
      (refused : (Madt.patchInstalled board.soc (board.collation board.topology)).Refuses
        (platformAfter before merged) cause platform) :
      Stopped (.acpi cause) { before with tables := platform.tables, fabric := platform.fabric }
  | slots {processors : List Processor} {dsdt : Nat} {merged : TableStore}
      {madt : Option Madt.PatchSummary} {platform : Madt.Platform} {cause : Smbios.SlotError}
      {structures : StructureStore} (merges : Merges board before processors dsdt merged)
      (patched : (Madt.patchInstalled board.soc (board.collation board.topology)).Answers
        (platformAfter before merged) madt platform)
      (refused : (Smbios.publishSlots board.ports board.nbio board.config).Refuses before.structures
        cause structures) :
      Stopped (.slots cause) { structures, tables := platform.tables, fabric := platform.fabric }

end Stages

theorem stopped_of_refuses {board : Board} {before after : Machine} {e : BootError}
    (refused : board.boot.Refuses before e after) : board.Stopped before e after := by
  -- One stage after the other: either it is the one that failed, or it has answered and is behind us.
  rcases Action.refuses_ofExcept_bind_iff.mp refused with ⟨invalid, rfl⟩ | ⟨_, _, detecting⟩
  · obtain ⟨cause, _, rfl⟩ := Action.mapError_eq_error.mp invalid
    exact .config cause
  rcases Action.refuses_bind.mp detecting with never | ⟨decoder, _, detected, reading⟩
  · exact absurd never Topology.not_detect_refuses
  obtain ⟨rfl, rfl⟩ := Topology.detect_answers.mp detected
  rcases Action.refuses_bind.mp reading with unread | ⟨found, _, enumerated, collating⟩
  · obtain ⟨cause, fault, rfl⟩ := Action.refuses_mapError.mp unread
    rw [Processor.enumerate_refuses fault]
    exact .collation cause
  obtain ⟨rfl, _⟩ := Processor.enumerate_answers (Action.answers_mapError.mp enumerated)
  rcases Action.refuses_ofExcept_bind_iff.mp collating with
    ⟨uncollated, rfl⟩ | ⟨processors, _, installing⟩
  · obtain ⟨cause, _, rfl⟩ := Action.mapError_eq_error.mp uncollated
    exact .collation cause
  rcases Action.refuses_bind.mp installing with devices | ⟨dsdt, _, installed, patching⟩
  · obtain ⟨tables, broken, rfl⟩ := Action.refuses_onPart.mp devices
    obtain ⟨cause, fault, rfl⟩ := Action.refuses_mapError.mp broken
    exact .devices fault
  obtain ⟨merged, answered, rfl⟩ := Action.answers_onPart.mp installed
  have merges := Action.answers_mapError.mp answered
  rcases Action.refuses_bind.mp patching with madt | ⟨madt, _, reinstalled, publishing⟩
  · obtain ⟨platform, broken, rfl⟩ := Action.refuses_onPart.mp madt
    obtain ⟨cause, fault, rfl⟩ := Action.refuses_mapError.mp broken
    exact .madt merges fault
  obtain ⟨platform, replaced, rfl⟩ := Action.answers_onPart.mp reinstalled
  have patched := Action.answers_mapError.mp replaced
  rcases Action.refuses_bind.mp publishing with slots | ⟨handles, _, _, reporting⟩
  · obtain ⟨structures, broken, rfl⟩ := Action.refuses_onPart.mp slots
    obtain ⟨cause, fault, rfl⟩ := Action.refuses_mapError.mp broken
    exact .slots merges patched fault
  · rw [Action.refuses_report_bind] at reporting
    exact absurd reporting Action.refuses_pure

-- The tables that a pass puts others in the place of: the DSDT that it extends and the first MADT.
def Original (board : Board) (store : TableStore) (key : Nat) : Prop :=
  (∃ table, store.find Table.dsdtSignature (some board.config.dsdtTableId) = some (key, table)) ∨
    ∃ table, store.find Table.madtSignature none = some (key, table)

section Tables

open TableStore

variable {board : Board} {before : Machine} {processors : List Processor} {dsdt : Nat}
  {merged : TableStore} {platform : Madt.Platform}

theorem Merges.spares (merges : board.Merges before processors dsdt merged) :
    Spares (board.Original before.tables) before.tables.tables merged.tables := by
  obtain ⟨key, old, _, new, _, found, _, _, _, _, rfl⟩ := installDevices_answers merges
  exact ((Spares.refl _ _).set (Or.inl ⟨old, found⟩)).append _

theorem Merges.find_madt (merges : board.Merges before processors dsdt merged) :
    merged.find Table.madtSignature none = before.tables.find Table.madtSignature none := by
  obtain ⟨key, old, table, new, _, found, parsed, _, extended, _, rfl⟩ := installDevices_answers merges
  obtain ⟨signed, sized, _⟩ := Table.parse_eq_ok_iff.mp parsed
  obtain ⟨_, _, header⟩ := Table.append_eq_ok sized extended
  have dsdtAt := find_eq_some_iff.mp found
  have apart : Table.dsdtSignature ≠ Table.madtSignature := by decide
  have kind : isMatch Table.dsdtSignature none new.toBytes = true := by
    have same : new.header.signature = Table.dsdtSignature := by
      rw [header]
      exact signed
    rw [← same]
    exact isMatch_toBytes new
  exact find_replaced_eq dsdtAt.place
    (isMatch_of_other_signature Table.madtSignature apart dsdtAt.passes none)
    (isMatch_of_other_signature Table.madtSignature apart kind none)

theorem Merges.spares_patched {madt : Option Madt.PatchSummary}
    (merges : board.Merges before processors dsdt merged)
    (patched : (Madt.patchInstalled board.soc (board.collation board.topology)).Answers
      (platformAfter before merged) madt platform) :
    Spares (board.Original before.tables) before.tables.tables platform.tables.tables := by
  match madt with
  | none =>
    rw [Madt.patchInstalled_silent patched]
    exact merges.spares
  | some summary =>
    obtain ⟨key, old, new, _, found, _, rfl⟩ := Madt.patchInstalled_patched patched
    have first : before.tables.find Table.madtSignature none = some (key, old) :=
      merges.find_madt.symm.trans found
    exact (merges.spares.set (Or.inr ⟨old, first⟩)).append _

theorem Stopped.spares {e : BootError} {after : Machine} (stopped : board.Stopped before e after) :
    Spares (board.Original before.tables) before.tables.tables after.tables.tables := by
  cases stopped with
  | config cause => exact .refl _ _
  | collation cause => exact .refl _ _
  | devices refused =>
    refine (installDevices_refuses refused).spares ?_ (.refl _ _)
    intro key old found
    exact Or.inl ⟨old, found⟩
  | madt merges refused =>
    refine (Madt.patchInstalled_refuses refused).spares ?_ merges.spares
    intro key old found
    exact Or.inr ⟨old, merges.find_madt.symm.trans found⟩
  | slots merges patched _ => exact merges.spares_patched patched

end Tables

def ExtendsDsdt (board : Board) (before : TableStore) (processors : List Processor) (key : Nat)
    (new : Bytes) : Prop :=
  ∃ old table block merged,
    before.find Table.dsdtSignature (some board.config.dsdtTableId) = some (key, old) ∧
      Table.parse Table.dsdtSignature old = .ok table ∧
      Processor.devicesBlock processors = .ok block ∧ table.append block = .ok merged ∧
      new = merged.toBytes

def PatchesMadt (board : Board) (before : Machine) (summary : Madt.PatchSummary) (key : Nat)
    (new : Bytes) : Prop :=
  ∃ old fabric, before.tables.find Table.madtSignature none = some (key, old) ∧
    (Madt.patchInPlace board.soc (board.collation board.topology)).Answers
      { table := old, fabric := before.fabric } (some summary) { table := new, fabric }

structure Installed (board : Board) (before after : Machine) (report : BootReport) : Prop where
  place : report.dsdt = before.tables.tables.length
  tables : ∃ key dsdt, board.ExtendsDsdt before.tables report.processors key dsdt ∧
    match report.madt with
    | none => after.tables.tables = before.tables.tables.set key none ++ [some dsdt]
    | some summary => ∃ madtKey madt, board.PatchesMadt before summary madtKey madt ∧
        after.tables.tables =
          (before.tables.tables.set key none).set madtKey none ++ [some dsdt, some madt]

structure Staged (board : Board) (before after : Machine) (result : Except BootError BootReport) :
    Prop where
  spares : TableStore.Spares (board.Original before.tables) before.tables.tables after.tables.tables
  appends : before.structures.structures <+: after.structures.structures
  config : ∀ cause, result = .error (.config cause) → after = before
  collation : ∀ cause, result = .error (.collation cause) → after = before
  acpi : ∀ cause, result = .error (.acpi cause) → after.structures = before.structures
  installed : ∀ report, result = .ok report → board.Installed before after report

theorem Stopped.staged {board : Board} {before after : Machine} {e : BootError}
    (stopped : board.Stopped before e after) : board.Staged before after (.error e) where
  spares := stopped.spares
  appends := by
    cases stopped with
    | slots _ _ refused =>
      rw [← refused.2]
      exact Smbios.extends_publishSlots board.ports board.nbio board.config before.structures
    | _ => exact List.prefix_refl _
  config := by
    rintro cause ⟨⟩
    cases stopped
    rfl
  collation := by
    rintro cause ⟨⟩
    cases stopped
    rfl
  acpi := by
    rintro cause ⟨⟩
    cases stopped <;> rfl
  installed := by
    rintro report ⟨⟩

section Finished

variable {board : Board} {before after : Machine} {report : BootReport} {listed : List ProcessorInfo}
  {merged : TableStore}

theorem Passed.installed (passed : board.Passed before after report listed merged) :
    board.Installed before after report := by
  have merges : board.Merges before report.processors report.dsdt merged := passed.devices
  obtain ⟨platform, patched, tables⟩ := passed.patched
  obtain ⟨key, old, table, new, block, found, parsed, built, extended, place, replaced⟩ :=
    TableStore.installDevices_answers merges
  refine ⟨place, key, new.toBytes, ⟨old, table, block, new, found, parsed, built, extended, rfl⟩, ?_⟩
  rw [tables]
  match report.madt, patched with
  | none, silent =>
    rw [Madt.patchInstalled_silent silent, replaced]
    rfl
  | some summary, patched =>
    obtain ⟨madtKey, madt, copy, fabric, there, answered, rfl⟩ := Madt.patchInstalled_patched patched
    have first : before.tables.find Table.madtSignature none = some (madtKey, madt) :=
      merges.find_madt.symm.trans there
    have inside : madtKey < before.tables.tables.length :=
      (List.getElem?_eq_some_iff.mp (TableStore.find_eq_some_iff.mp first).place).1
    refine ⟨madtKey, copy, ⟨madt, fabric, first, answered⟩, ?_⟩
    simp only [replaced, TableStore.replaced]
    rw [List.set_append_left _ _ (by rwa [List.length_set]), List.append_assoc]
    rfl

theorem Passed.staged (passed : board.Passed before after report listed merged) :
    board.Staged before after (.ok report) where
  spares := by
    have merges : board.Merges before report.processors report.dsdt merged := passed.devices
    obtain ⟨platform, patched, tables⟩ := passed.patched
    rw [tables]
    exact merges.spares_patched patched
  appends := by
    rw [← passed.published.2]
    exact Smbios.extends_publishSlots board.ports board.nbio board.config before.structures
  config := by
    rintro cause ⟨⟩
  collation := by
    rintro cause ⟨⟩
  acpi := by
    rintro cause ⟨⟩
  installed := by
    rintro _ ⟨⟩
    exact passed.installed

end Finished

/-- Wherever a pass ends, it has emptied no place but those of the DSDT and the MADT that it replaces,
and only added structures. -/
theorem boot_staged (board : Board) (before : Machine) :
    board.Staged before (board.boot.run before).state (board.boot.run before).result := by
  match ended : (board.boot.run before).result with
  | .ok report =>
    obtain ⟨_, _, passed⟩ := boot_answers ⟨ended, rfl⟩
    exact passed.staged
  | .error e =>
    have stopped : board.Stopped before e (board.boot.run before).state :=
      stopped_of_refuses ⟨ended, rfl⟩
    exact stopped.staged

end Board

end FirmwareTables
