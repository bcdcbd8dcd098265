import FirmwareTables.Proofs.Madt.Reinstalled

set_option autoImplicit false

namespace FirmwareTables.TableStore

def Unreplaced (signature : FixedBytes 4) (oemTableId : Option (FixedBytes 8))
    (before after : TableStore) (e : AcpiError) : Prop :=
  ∀ key old, before.find signature oemTableId = some (key, old) →
    (after.find signature oemTableId = some (key, old) ∧ after.tables = before.tables) ∨
      ∃ cause, before.Strands cause ∧ e = .service cause ∧
        after.tables = before.tables.set key none

theorem BrokenOff.unreplaced {signature : FixedBytes 4} {oemTableId : Option (FixedBytes 8)}
    {before after : TableStore} {e : AcpiError}
    (broken : BrokenOff signature oemTableId before e after) :
    Unreplaced signature oemTableId before after e := by
  intro key old found
  cases broken with
  | inl kept =>
    have same : after.find signature oemTableId = before.find signature oemTableId := by
      simp only [find, kept]
    exact Or.inl ⟨same.trans found, kept⟩
  | inr emptied =>
    obtain ⟨place, first, cause, there, strands, failure, tables⟩ := emptied
    have again : (place, first) = (key, old) := Option.some.inj (there.symm.trans found)
    cases again
    exact Or.inr ⟨cause, strands, failure, tables⟩

theorem unreplaced_of_failure :
    (∀ (oemTableId : FixedBytes 8) (block : Bytes) (before after : TableStore) (e : AcpiError),
      (mergeBlock oemTableId block).Refuses before e after →
        Unreplaced Table.dsdtSignature (some oemTableId) before after e) ∧
    ∀ (soc : Soc) (collation : Collation) (before after : Madt.Platform) (e : AcpiError),
      (Madt.patchInstalled soc collation).Refuses before e after →
        Unreplaced Table.madtSignature none before.tables after.tables e := by
  constructor
  · intro oemTableId block before after e refused
    exact (mergeBlock_refuses refused).unreplaced
  · intro soc collation before after e refused
    exact (Madt.patchInstalled_refuses refused).unreplaced

def blankId : FixedBytes 8 := ⟨List.replicate 8 0, rfl⟩

def blankDsdt : Bytes :=
  Table.dsdtSignature.bytes ++ Bytes.word32 37 ++ List.replicate 28 0 ++ [0xA3]

def failing (install uninstall : Faults) : TableStore :=
  withFaults { tables := [some blankDsdt, some Madt.mixedTable] } install uninstall

-- The store does not let go of the DSDT; it lets go of the MADT and refuses the patched one.
theorem unreplaced_of_failure_either :
    let soc : Soc := .fixed (.ok [{ id := 7, address := 0xFEC00000, gsiBase := 24 }])
    let collation : Collation := ⟨.ofReports [(.smt, 1)], .turin, false⟩
    let locked := failing Faults.never (Faults.after 0 .unsupported)
    let full : Madt.Platform := ⟨failing (Faults.after 0 .outOfResources) Faults.never, {}⟩
    let merging := (mergeBlock blankId [1]).run locked
    let patching := (Madt.patchInstalled soc collation).run full
    (merging.result = .error (.service .unsupported) ∧
      Unreplaced Table.dsdtSignature (some blankId) locked merging.state (.service .unsupported)) ∧
    (patching.result = .error (.service .outOfResources) ∧
      Unreplaced Table.madtSignature none full.tables patching.state.tables
        (.service .outOfResources)) := by
  intro soc collation locked full merging patching
  have first : merging.result = .error (.service .unsupported) := by cbv
  have second : patching.result = .error (.service .outOfResources) := by cbv
  exact ⟨⟨first, unreplaced_of_failure.1 blankId [1] locked merging.state _ ⟨first, rfl⟩⟩,
    ⟨second, unreplaced_of_failure.2 soc collation full patching.state _ ⟨second, rfl⟩⟩⟩

theorem find_eq_none_after_refused_install :
    let full := failing (Faults.after 0 .outOfResources) Faults.never
    let merging := (mergeBlock blankId [1]).run full
    merging.result = .error (.service .outOfResources) ∧
      full.find Table.dsdtSignature (some blankId) = some (0, blankDsdt) ∧
      merging.state.find Table.dsdtSignature (some blankId) = none := by
  intro full merging
  exact ⟨by cbv, by cbv, by cbv⟩

end FirmwareTables.TableStore
