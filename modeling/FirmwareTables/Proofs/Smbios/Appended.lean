import FirmwareTables.Proofs.Services.Told
import FirmwareTables.Smbios.SlotEnumeration

set_option autoImplicit false

namespace FirmwareTables

namespace StructureStore

variable {store middle after : StructureStore}

def extended (store : StructureStore) (more : List Bytes) : StructureStore :=
  { store with structures := store.structures ++ more }

@[simp] theorem extended_nil (store : StructureStore) : store.extended [] = store := by
  simp [extended]

@[simp] theorem extended_extended (store : StructureStore) (one two : List Bytes) :
    (store.extended one).extended two = store.extended (one ++ two) := by
  simp [extended]

theorem state_of_add_answers {record : Bytes} {handle : UInt16}
    (answers : (add record).Answers store handle after) : after = store.extended [record] := by
  obtain ⟨result, rfl⟩ := answers
  simp only [add, Action.run] at result ⊢
  split at result
  · cases result
  · split at result
    · next room =>
      rw [if_pos room]
      rfl
    · cases result

theorem state_of_add_refuses {record : Bytes} {cause : ServiceError}
    (refuses : (add record).Refuses store cause after) : after = store := by
  obtain ⟨result, rfl⟩ := refuses
  simp only [add, Action.run] at result ⊢
  split at result
  · rfl
  · split at result
    · cases result
    · next full =>
      rw [if_neg full]

def Extends {ε α : Type} (x : Action StructureStore ε α) : Prop :=
  ∀ store, store.structures <+: (x.run store).state.structures

end StructureStore

namespace Smbios

open StructureStore

variable {store middle after : StructureStore} {told : Except SlotError (List UInt16)}

inductive Adds :
    StructureStore → List Bytes → Except SlotError (List UInt16) → StructureStore → Prop
  | none (store : StructureStore) : Adds store [] (.ok []) store
  | refused {store : StructureStore} {record : Bytes} {cause : ServiceError}
      (refuses : (add record).Refuses store cause store) (rest : List Bytes) :
      Adds store (record :: rest) (.error (.service cause)) store
  | added {store after : StructureStore} {record : Bytes} {rest : List Bytes} {handle : UInt16}
      {told : Except SlotError (List UInt16)}
      (answers : (add record).Answers store handle (store.extended [record]))
      (later : Adds (store.extended [record]) rest told after) :
      Adds store (record :: rest) (told.map (handle :: ·)) after

theorem Adds.append_of_ok {records more : List Bytes} {handles : List UInt16}
    (first : Adds store records (.ok handles) middle) (later : Adds middle more told after) :
    Adds store (records ++ more) (told.map (handles ++ ·)) after := by
  generalize ended : (Except.ok handles : Except SlotError (List UInt16)) = result at first
  induction first generalizing handles with
  | none store =>
    cases ended
    cases told <;> exact later
  | refused refuses rest => cases ended
  | @added store after record rest handle result answers others ih =>
    cases result with
    | error e => cases ended
    | ok others =>
      cases ended
      have whole := Adds.added answers (ih later rfl)
      cases told <;> exact whole

theorem Adds.append_of_error {records : List Bytes} {e : SlotError}
    (first : Adds store records (.error e) after) (more : List Bytes) :
    Adds store (records ++ more) (.error e) after := by
  generalize ended : (Except.error e : Except SlotError (List UInt16)) = result at first
  induction first with
  | none store => cases ended
  | refused refuses rest =>
    cases ended
    exact .refused refuses (rest ++ more)
  | @added store after record rest handle result answers others ih =>
    cases result with
    | ok others => cases ended
    | error e =>
      cases ended
      exact .added answers (ih rfl)

theorem Adds.extends {records : List Bytes} (adds : Adds store records told after) :
    store.structures <+: after.structures := by
  induction adds with
  | none store => exact List.prefix_refl store.structures
  | refused refuses rest => exact List.prefix_refl _
  | @added store after record rest handle told answers later ih =>
    exact (List.prefix_append store.structures [record]).trans ih

-- The store that holds the records before a position takes the one there.
def TakenAt (store : StructureStore) (records : List Bytes) (i : Nat) (handle : UInt16) : Prop :=
  ∃ record, records[i]? = some record ∧
    (add record).Answers (store.extended (records.take i)) handle
      (store.extended (records.take (i + 1)))

theorem TakenAt.zero {record : Bytes} {handle : UInt16}
    (answers : (add record).Answers store handle (store.extended [record])) (rest : List Bytes) :
    TakenAt store (record :: rest) 0 handle :=
  ⟨record, rfl, by simpa using answers⟩

theorem TakenAt.succ {record : Bytes} {rest : List Bytes} {i : Nat} {handle : UInt16}
    (taken : TakenAt (store.extended [record]) rest i handle) :
    TakenAt store (record :: rest) (i + 1) handle := by
  obtain ⟨later, here, answers⟩ := taken
  exact ⟨later, here, by simpa using answers⟩

inductive Published (store : StructureStore) (records : List Bytes) :
    Except SlotError (List UInt16) → StructureStore → Prop
  | all {handles : List UInt16} (length_eq : handles.length = records.length)
      (taken : ∀ i handle, handles[i]? = some handle → TakenAt store records i handle) :
      Published store records (.ok handles) (store.extended records)
  | before {i : Nat} {record : Bytes} {cause : ServiceError}
      (taken : ∀ j < i, ∃ handle, TakenAt store records j handle)
      (here : records[i]? = some record)
      (refuses : (add record).Refuses (store.extended (records.take i)) cause
        (store.extended (records.take i))) :
      Published store records (.error (.service cause)) (store.extended (records.take i))

theorem Adds.published {records : List Bytes} (adds : Adds store records told after) :
    Published store records told after := by
  induction adds with
  | none store =>
    have whole : Published store [] (.ok []) (store.extended []) := .all rfl (by simp)
    rwa [StructureStore.extended_nil] at whole
  | @refused store record cause refuses rest =>
    have whole : Published store (record :: rest) (.error (.service cause))
        (store.extended ((record :: rest).take 0)) :=
      .before (fun j low => absurd low (Nat.not_lt_zero j)) rfl (by simpa using refuses)
    rwa [List.take_zero, StructureStore.extended_nil] at whole
  | @added store after record rest handle told answers later ih =>
    cases ih with
    | @all handles length_eq taken =>
      have whole : Published store (record :: rest) (.ok (handle :: handles))
          (store.extended (record :: rest)) := by
        refine .all (congrArg (· + 1) length_eq) ?_
        rintro (_ | i) given here
        · cases here
          exact .zero answers rest
        · exact (taken i given here).succ
      simpa [Except.map] using whole
    | @before i next cause taken here refuses =>
      have whole : Published store (record :: rest) (.error (.service cause))
          (store.extended ((record :: rest).take (i + 1))) := by
        refine .before ?_ here (by simpa using refuses)
        rintro (_ | j) low
        · exact ⟨handle, .zero answers rest⟩
        · obtain ⟨given, there⟩ := taken j (Nat.lt_of_succ_lt_succ low)
          exact ⟨given, there.succ⟩
      simpa [Except.map] using whole

end Smbios

end FirmwareTables
