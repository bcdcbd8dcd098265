import FirmwareTables.Proofs.Store.Replaced

set_option autoImplicit false

namespace FirmwareTables.TableStore

theorem reportFailure_refuses {α : Type} {wording : Wording} {attempted : String}
    {x : Action TableStore ServiceError α} {store store' : TableStore} {e : AcpiError} :
    (reportFailure wording attempted x).Refuses store e store' ↔
      ∃ cause, x.Refuses store cause store' ∧ e = .service cause := by
  unfold reportFailure
  rw [Action.refuses_bind]
  constructor
  · rintro (refused | ⟨tried, middle, attempt, later⟩)
    · cases refused.1
    · obtain ⟨result, state⟩ := Action.answers_attempt.mp attempt
      match tried with
      | .ok answer => exact absurd later Action.refuses_pure
      | .error cause =>
        rw [Action.refuses_report_bind] at later
        obtain ⟨rfl, rfl⟩ := Action.refuses_fail.mp later
        exact ⟨cause, ⟨result, state⟩, rfl⟩
  · rintro ⟨cause, refused, rfl⟩
    refine Or.inr ⟨.error cause, store', Action.answers_attempt.mpr refused, ?_⟩
    rw [Action.refuses_report_bind]
    exact Action.refuses_fail.mpr ⟨rfl, rfl⟩

theorem uninstall_refuses {store store' : TableStore} {key : Nat} {cause : ServiceError}
    (refused : (uninstall key).Refuses store cause store') : store'.tables = store.tables := by
  obtain ⟨result, rfl⟩ := refused
  simp only [uninstall, Action.run] at result ⊢
  split at result
  · rfl
  · cases result
  · rfl

theorem install_refuses {store store' : TableStore} {table : Bytes} {cause : ServiceError}
    (refused : (install table).Refuses store cause store') :
    store.installFaults store.installAttempts = some cause ∧ store'.tables = store.tables := by
  obtain ⟨result, rfl⟩ := refused
  simp only [install, Action.run] at result ⊢
  split at result
  · next fault =>
    cases result
    exact ⟨fault, rfl⟩
  · cases result

-- The store lets go of the next table that is taken out and takes no table in after it.
def Strands (store : TableStore) (cause : ServiceError) : Prop :=
  store.uninstallFaults store.uninstallAttempts = none ∧
    store.installFaults store.installAttempts = some cause

theorem replace_refuses {wording : Wording} {store store' : TableStore} {key : Nat} {table : Bytes}
    {e : AcpiError} (refused : (replace wording key table).Refuses store e store') :
    store'.tables = store.tables ∨ ∃ cause, store.Strands cause ∧ e = .service cause ∧
      store'.tables = store.tables.set key none := by
  rcases Action.refuses_bind.mp refused with first | ⟨_, middle, first, second⟩
  · obtain ⟨_, kept, _⟩ := reportFailure_refuses.mp first
    exact Or.inl (uninstall_refuses kept)
  · obtain ⟨faultless, rfl⟩ := uninstall_answers (reportFailure_answers.mp first)
    obtain ⟨cause, failed, same⟩ := reportFailure_refuses.mp second
    obtain ⟨fault, emptied⟩ := install_refuses failed
    exact Or.inr ⟨cause, ⟨faultless, fault⟩, same, emptied⟩

def BrokenOff (signature : FixedBytes 4) (oemTableId : Option (FixedBytes 8))
    (store : TableStore) (e : AcpiError) (store' : TableStore) : Prop :=
  store'.tables = store.tables ∨ ∃ key old cause,
    store.find signature oemTableId = some (key, old) ∧ store.Strands cause ∧ e = .service cause ∧
      store'.tables = store.tables.set key none

theorem brokenOff_of_replace {signature : FixedBytes 4} {oemTableId : Option (FixedBytes 8)}
    {wording : Wording} {store store' : TableStore} {key : Nat} {old new : Bytes} {e : AcpiError}
    (found : store.find signature oemTableId = some (key, old))
    (refused : (replace wording key new).Refuses store e store') :
    BrokenOff signature oemTableId store e store' := by
  rcases replace_refuses refused with kept | ⟨cause, strands, same, emptied⟩
  · exact Or.inl kept
  · exact Or.inr ⟨key, old, cause, found, strands, same, emptied⟩

theorem mergeBlock_refuses {oemTableId : FixedBytes 8} {block : Bytes} {store store' : TableStore}
    {e : AcpiError} (refused : (mergeBlock oemTableId block).Refuses store e store') :
    BrokenOff Table.dsdtSignature (some oemTableId) store e store' := by
  rw [mergeBlock, Action.refuses_get_bind] at refused
  split at refused
  · rw [Action.refuses_report_bind] at refused
    obtain ⟨_, rfl⟩ := Action.refuses_fail.mp refused
    exact Or.inl rfl
  · next key old found =>
    rcases Action.refuses_ofExcept_bind_iff.mp refused with ⟨_, rfl⟩ | ⟨table, _, extending⟩
    · exact Or.inl rfl
    rcases Action.refuses_ofExcept_bind_iff.mp extending with ⟨_, rfl⟩ | ⟨merged, _, replacing⟩
    · exact Or.inl rfl
    rcases Action.refuses_bind.mp replacing with broken | ⟨_, _, _, reporting⟩
    · exact brokenOff_of_replace found broken
    · rw [Action.refuses_report_bind] at reporting
      exact absurd reporting Action.refuses_pure

theorem devicesTable_refuses {σ : Type} {processors : List Processor} {config : BoardConfig} {s s' : σ}
    {e : AcpiError} (refused : (Processor.devicesTable processors config).Refuses s e s') : s' = s := by
  rw [Processor.devicesTable, Action.refuses_report_bind] at refused
  rcases Action.refuses_ofExcept_bind_iff.mp refused with ⟨_, rfl⟩ | ⟨block, _, building⟩
  · rfl
  · exact (Action.refuses_ofExcept.mp building).2

theorem installDevices_refuses {processors : List Processor} {config : BoardConfig}
    {store store' : TableStore} {e : AcpiError}
    (refused : (installDevices processors config).Refuses store e store') :
    BrokenOff Table.dsdtSignature (some config.dsdtTableId) store e store' := by
  rcases Action.refuses_bind.mp refused with listing | ⟨devices, _, listed, merging⟩
  · rw [devicesTable_refuses listing]
    exact Or.inl rfl
  · obtain ⟨rfl, _⟩ := devicesTable_answers listed
    rcases Action.refuses_bind.mp merging with broken | ⟨_, _, _, reporting⟩
    · exact mergeBlock_refuses broken
    · rw [Action.refuses_report_bind] at reporting
      exact absurd reporting Action.refuses_pure

def Spares (mayEmpty : Nat → Prop) (before after : List (Option Bytes)) : Prop :=
  ∀ key < before.length,
    after[key]? = before[key]? ∨ (mayEmpty key ∧ after[key]? = some none)

namespace Spares

variable {mayEmpty : Nat → Prop} {before after : List (Option Bytes)}

theorem refl (mayEmpty : Nat → Prop) (tables : List (Option Bytes)) :
    Spares mayEmpty tables tables := by
  intro key _
  exact Or.inl rfl

theorem inside (spares : Spares mayEmpty before after) {key : Nat} (was : key < before.length) :
    key < after.length := by
  rcases spares key was with same | ⟨_, emptied⟩
  · rw [List.getElem?_eq_getElem was] at same
    exact (List.getElem?_eq_some_iff.mp same).1
  · exact (List.getElem?_eq_some_iff.mp emptied).1

theorem set (spares : Spares mayEmpty before after) {key : Nat} (may : mayEmpty key) :
    Spares mayEmpty before (after.set key none) := by
  intro place was
  by_cases same : key = place
  · subst same
    exact Or.inr ⟨may, List.getElem?_set_self (spares.inside was)⟩
  · rw [List.getElem?_set_ne same]
    exact spares place was

theorem append (spares : Spares mayEmpty before after) (more : List (Option Bytes)) :
    Spares mayEmpty before (after ++ more) := by
  intro key was
  rw [List.getElem?_append_left (spares.inside was)]
  exact spares key was

end Spares

theorem BrokenOff.spares {signature : FixedBytes 4} {oemTableId : Option (FixedBytes 8)}
    {store store' : TableStore} {e : AcpiError} (broken : BrokenOff signature oemTableId store e store')
    {mayEmpty : Nat → Prop} {before : List (Option Bytes)}
    (may : ∀ key old, store.find signature oemTableId = some (key, old) → mayEmpty key)
    (spares : Spares mayEmpty before store.tables) : Spares mayEmpty before store'.tables := by
  rcases broken with kept | ⟨key, old, _, found, _, _, emptied⟩
  · rwa [kept]
  · rw [emptied]
    exact spares.set (may key old found)

end FirmwareTables.TableStore
