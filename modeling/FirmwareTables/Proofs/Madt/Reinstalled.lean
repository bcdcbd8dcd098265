import FirmwareTables.Madt.Installed
import FirmwareTables.Proofs.Madt.Frame
import FirmwareTables.Proofs.Store.Spared

set_option autoImplicit false

namespace FirmwareTables.Madt

def HasX2Apics (table : Bytes) (listed : List LocalX2Apic) : Prop :=
  ∃ found, entries table = .ok found ∧ found.filterMap Entry.localX2Apic? = listed

theorem HasX2Apics.unique {table : Bytes} {listed other : List LocalX2Apic}
    (one : HasX2Apics table listed) (two : HasX2Apics table other) : listed = other := by
  obtain ⟨found, walked, rfl⟩ := one
  obtain ⟨again, walkedAgain, rfl⟩ := two
  rw [walked, Except.ok.injEq] at walkedAgain
  rw [walkedAgain]

theorem hasX2Apics_patchedTable (platform : List IoApicInfo) {collation : Collation} {table : Bytes}
    {found : List Entry} {ordered : List LocalX2Apic} (ready : Patchable table found)
    (collated : collation.collate (found.filterMap Entry.localX2Apic?) = .ok ordered) :
    HasX2Apics (patchedTable platform ordered found table) ordered :=
  ⟨_, entries_patchedTable ready (ready.alike platform collated),
    localX2Apics_patchedEntries platform 0 ordered found (Collation.length_of_collate collated)⟩

theorem onCopy_answers {ε α : Type} {table copy : Bytes} {x : Action Workspace ε α}
    {before after : Platform} {a : α} :
    (onCopy table x).Answers before (a, copy) after ↔
      ∃ fabric, x.Answers { table, fabric := before.fabric } a { table := copy, fabric } ∧
        after = { before with fabric } := by
  simp only [onCopy, Action.Answers, Action.run]
  obtain ⟨result, ⟨_, fabric⟩, _⟩ := x { table, fabric := before.fabric }
  cases result with
  | error _ => simp [Except.map]
  | ok _ =>
    simp only [Except.map, Except.ok.injEq, Prod.mk.injEq, Workspace.mk.injEq]
    constructor
    · rintro ⟨⟨rfl, rfl⟩, rfl⟩
      exact ⟨fabric, ⟨rfl, rfl, rfl⟩, rfl⟩
    · rintro ⟨_, ⟨rfl, rfl, rfl⟩, rfl⟩
      exact ⟨⟨rfl, rfl⟩, rfl⟩

theorem onCopy_refuses {ε α : Type} {table : Bytes} {x : Action Workspace ε α}
    {before after : Platform} {e : ε} (refused : (onCopy table x).Refuses before e after) :
    after.tables = before.tables := by
  obtain ⟨_, rfl⟩ := refused
  rfl

section Endings

variable {soc : Soc} {collation : Collation} {before after : Platform}

-- The first MADT is worked on as a copy, which takes its place when there was something to patch.
theorem patchInstalled_asked {answer : Option PatchSummary}
    (done : (patchInstalled soc collation).Answers before answer after) :
    ∃ key table patched fabric, before.tables.find Table.madtSignature none = some (key, table) ∧
      (patchInPlace soc collation).Answers { table, fabric := before.fabric } answer
        { table := patched, fabric } ∧
      after = {
        tables := answer.elim before.tables (fun _ => before.tables.replaced key patched)
        fabric } := by
  rw [patchInstalled, Action.answers_get_bind] at done
  split at done
  · rw [report, Action.answers_report_bind] at done
    exact absurd done Action.answers_fail
  · next key table there =>
    obtain ⟨⟨counted, copy⟩, middle, copied, replacing⟩ := Action.answers_bind.mp done
    obtain ⟨fabric, patched, rfl⟩ := onCopy_answers.mp copied
    cases counted with
    | none =>
      obtain ⟨rfl, rfl⟩ := Action.answers_pure.mp replacing
      exact ⟨key, table, copy, fabric, there, patched, rfl⟩
    | some counted =>
      obtain ⟨_, last, installed, finishing⟩ := Action.answers_bind.mp replacing
      obtain ⟨rfl, rfl⟩ := Action.answers_pure.mp finishing
      obtain ⟨_, replaced, rfl⟩ := Action.answers_onPart.mp installed
      obtain ⟨_, rfl⟩ := TableStore.replace_answers replaced
      exact ⟨key, table, copy, fabric, there, patched, rfl⟩

theorem patchInstalled_patched {summary : PatchSummary}
    (done : (patchInstalled soc collation).Answers before (some summary) after) :
    ∃ key table patched fabric, before.tables.find Table.madtSignature none = some (key, table) ∧
      (patchInPlace soc collation).Answers { table, fabric := before.fabric } (some summary)
        { table := patched, fabric } ∧
      after = { tables := before.tables.replaced key patched, fabric } :=
  patchInstalled_asked done

theorem patchInstalled_silent (done : (patchInstalled soc collation).Answers before none after) :
    after.tables = before.tables := by
  obtain ⟨_, _, _, fabric, _, _, kept⟩ := patchInstalled_asked done
  rw [kept]
  rfl

theorem patchInstalled_refuses {e : AcpiError}
    (refused : (patchInstalled soc collation).Refuses before e after) :
    TableStore.BrokenOff Table.madtSignature none before.tables e after.tables := by
  rw [patchInstalled, Action.refuses_get_bind] at refused
  split at refused
  · rw [report, Action.refuses_report_bind] at refused
    obtain ⟨_, rfl⟩ := Action.refuses_fail.mp refused
    exact Or.inl rfl
  · next key table there =>
    rcases Action.refuses_bind.mp refused with copying | ⟨⟨answer, copy⟩, middle, copied, replacing⟩
    · exact Or.inl (congrArg TableStore.tables (onCopy_refuses copying))
    obtain ⟨fabric, _, rfl⟩ := onCopy_answers.mp copied
    cases answer with
    | none => exact absurd replacing Action.refuses_pure
    | some counted =>
      rcases Action.refuses_bind.mp replacing with broken | ⟨_, _, _, finishing⟩
      · obtain ⟨tables, replaced, rfl⟩ := Action.refuses_onPart.mp broken
        exact TableStore.brokenOff_of_replace there replaced
      · exact absurd finishing Action.refuses_pure

end Endings

theorem patchInstalled_answers {soc : Soc} {collation : Collation} {before after : Platform}
    {summary : PatchSummary}
    (done : (patchInstalled soc collation).Answers before (some summary) after) :
    ∃ (key : Nat) (table : Bytes) (platform : List IoApicInfo) (found : List Entry)
      (ordered : List LocalX2Apic),
      before.tables.find Table.madtSignature none = some (key, table) ∧
      answered soc { table, fabric := before.fabric } = .ok platform ∧
      patchableEntries table = .ok found ∧
      collation.collate (found.filterMap Entry.localX2Apic?) = .ok ordered ∧
      after.tables = before.tables.replaced key (patchedTable platform ordered found table) := by
  obtain ⟨key, table, _, _, there, patched, rfl⟩ := patchInstalled_patched done
  obtain ⟨platform, found, ordered, asked, patchable, collated, _, rfl⟩ := exists_patchedTable patched
  exact ⟨key, table, platform, found, ordered, there, asked, patchable, collated, rfl⟩

end FirmwareTables.Madt
