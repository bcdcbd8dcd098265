import Mathlib
import FirmwareTables.Store.Merge
import FirmwareTables.Proofs.Table.Extended

set_option autoImplicit false

namespace FirmwareTables.TableStore

structure FirstAt (test : Bytes → Bool) (tables : List (Option Bytes)) (key : Nat) (table : Bytes) :
    Prop where
  place : tables[key]? = some (some table)
  passes : test table = true
  first : ∀ i < key, ∀ other, tables[i]? = some (some other) → test other = false

theorem firstAt_zero {test : Bytes → Bool} {slot : Option Bytes} {rest : List (Option Bytes)}
    {table : Bytes} :
    FirstAt test (slot :: rest) 0 table ↔ slot = some table ∧ test table = true := by
  constructor
  · intro found
    exact ⟨Option.some.inj found.place, found.passes⟩
  · rintro ⟨rfl, passes⟩
    exact ⟨rfl, passes, fun i before => absurd before (Nat.not_lt_zero i)⟩

theorem firstAt_succ {test : Bytes → Bool} {slot : Option Bytes} {rest : List (Option Bytes)}
    {key : Nat} {table : Bytes} :
    FirstAt test (slot :: rest) (key + 1) table ↔
      (∀ other, slot = some other → test other = false) ∧ FirstAt test rest key table := by
  constructor
  · intro found
    refine ⟨?_, found.place, found.passes, ?_⟩
    · rintro other rfl
      exact found.first 0 (Nat.succ_pos key) other rfl
    · intro i before other there
      exact found.first (i + 1) (Nat.succ_lt_succ before) other there
  · rintro ⟨head, found⟩
    refine ⟨found.place, found.passes, ?_⟩
    intro i before other there
    cases i with
    | zero => exact head other (Option.some.inj there)
    | succ i => exact found.first i (Nat.lt_of_succ_lt_succ before) other there

theorem findFrom_eq_some_iff {test : Bytes → Bool} {tables : List (Option Bytes)} {start key : Nat}
    {table : Bytes} :
    findFrom test start tables = some (key, table) ↔
      ∃ i, key = start + i ∧ FirstAt test tables i table := by
  induction tables generalizing start with
  | nil =>
    refine iff_of_false (by simp [findFrom]) ?_
    rintro ⟨i, _, found⟩
    simpa using found.place
  | cons slot rest ih =>
    have later : (∃ i, key = start + i ∧ FirstAt test (slot :: rest) i table) ↔
        (key = start ∧ slot = some table ∧ test table = true) ∨
          ((∀ other, slot = some other → test other = false) ∧
            ∃ i, key = start + 1 + i ∧ FirstAt test rest i table) := by
      constructor
      · rintro ⟨i, rfl, found⟩
        cases i with
        | zero => exact Or.inl ⟨rfl, firstAt_zero.mp found⟩
        | succ i =>
          obtain ⟨head, found⟩ := firstAt_succ.mp found
          exact Or.inr ⟨head, i, by omega, found⟩
      · rintro (⟨rfl, here⟩ | ⟨head, i, rfl, found⟩)
        · exact ⟨0, rfl, firstAt_zero.mpr here⟩
        · exact ⟨i + 1, by omega, firstAt_succ.mpr ⟨head, found⟩⟩
    rw [later]
    match slot with
    | none => simp [findFrom, ih]
    | some head =>
      rw [findFrom]
      split
      · next passes =>
        simp only [Option.some.injEq, Prod.mk.injEq]
        grind
      · next fails =>
        rw [ih]
        grind

theorem find_eq_some_iff {store : TableStore} {signature : FixedBytes 4}
    {oemTableId : Option (FixedBytes 8)} {key : Nat} {table : Bytes} :
    store.find signature oemTableId = some (key, table) ↔
      FirstAt (isMatch signature oemTableId) store.tables key table := by
  rw [find, findFrom_eq_some_iff]
  simp

theorem isMatch_of_other_signature {one : FixedBytes 4} (two : FixedBytes 4) (apart : one ≠ two)
    {oemTableId : Option (FixedBytes 8)} {table : Bytes} (matched : isMatch one oemTableId table = true)
    (other : Option (FixedBytes 8)) : isMatch two other table = false := by
  have begins {signature : FixedBytes 4} {id : Option (FixedBytes 8)}
      (found : isMatch signature id table = true) : signature.bytes <+: table := by
    unfold isMatch at found
    exact List.isPrefixOf_iff_prefix.mp (Bool.and_eq_true_iff.mp found).1
  by_contra both
  rw [Bool.not_eq_false] at both
  have sizes : one.bytes.length = two.bytes.length := by
    rw [one.length_eq, two.length_eq]
  have front := List.prefix_of_prefix_length_le (begins matched) (begins both) (Nat.le_of_eq sizes)
  have same : one.bytes = two.bytes := front.eq_of_length sizes
  cases one
  cases two
  cases same
  exact apart rfl

def replaced (store : TableStore) (key : Nat) (table : Bytes) : TableStore :=
  { store with
    tables := store.tables.set key none ++ [some table]
    installAttempts := store.installAttempts + 1
    uninstallAttempts := store.uninstallAttempts + 1 }

section Replaced

variable {test : Bytes → Bool} {store : TableStore} {key place : Nat} {old table : Bytes}

theorem getElem?_replaced_of_ne (inside : place < store.tables.length) (apart : place ≠ key)
    (new : Bytes) : (store.replaced key new).tables[place]? = store.tables[place]? := by
  rw [replaced, List.getElem?_append_left (by rwa [List.length_set]), List.getElem?_set_ne apart.symm]

theorem getElem?_replaced_self (inside : key < store.tables.length) (new : Bytes) :
    (store.replaced key new).tables[key]? = some none := by
  rw [replaced, List.getElem?_append_left (by rwa [List.length_set]), List.getElem?_set_self inside]

theorem getElem?_replaced_length (store : TableStore) (key : Nat) (new : Bytes) :
    (store.replaced key new).tables[store.tables.length]? = some (some new) := by
  have last : store.tables.length = (store.tables.set key none).length := List.length_set.symm
  rw [replaced, last, List.getElem?_concat_length]

-- What stands elsewhere is found as before, unless it was the old table that was found.
theorem FirstAt.of_replaced (found : FirstAt test store.tables place table)
    (there : store.tables[key]? = some (some old)) (other : test old = false) (new : Bytes) :
    FirstAt test (store.replaced key new).tables place table := by
  have elsewhere : place ≠ key := by
    rintro rfl
    have same := found.place
    rw [there, Option.some.injEq, Option.some.injEq] at same
    rw [same, found.passes] at other
    cases other
  have inside : place < store.tables.length := (List.getElem?_eq_some_iff.mp found.place).1
  have within : key < store.tables.length := (List.getElem?_eq_some_iff.mp there).1
  refine ⟨?_, found.passes, ?_⟩
  · rw [getElem?_replaced_of_ne inside elsewhere]
    exact found.place
  · intro i before earlier stands
    by_cases same : i = key
    · rw [same, getElem?_replaced_self within] at stands
      cases stands
    · rw [getElem?_replaced_of_ne (Nat.lt_trans before inside) same] at stands
      exact found.first i before earlier stands

theorem FirstAt.before_replaced {new : Bytes}
    (found : FirstAt test (store.replaced key new).tables place table)
    (there : store.tables[key]? = some (some old)) (other : test old = false)
    (fresh : test new = false) : FirstAt test store.tables place table := by
  have within : key < store.tables.length := (List.getElem?_eq_some_iff.mp there).1
  have stands := found.place
  have apart : place ≠ key := by
    rintro rfl
    rw [getElem?_replaced_self within] at stands
    cases stands
  have inside : place < store.tables.length := by
    have least := (List.getElem?_eq_some_iff.mp stands).1
    simp only [replaced, List.length_append, List.length_set, List.length_singleton] at least
    -- The last place holds the new table, which does not pass.
    refine Nat.lt_of_le_of_ne (Nat.le_of_lt_succ least) ?_
    rintro rfl
    rw [getElem?_replaced_length, Option.some.injEq, Option.some.injEq] at stands
    rw [stands, found.passes] at fresh
    cases fresh
  rw [getElem?_replaced_of_ne inside apart] at stands
  refine ⟨stands, found.passes, ?_⟩
  intro i before earlier was
  by_cases same : i = key
  · rw [same, there, Option.some.injEq, Option.some.injEq] at was
    rwa [← was]
  · rw [← getElem?_replaced_of_ne (Nat.lt_trans before inside) same new] at was
    exact found.first i before earlier was

end Replaced

theorem find_replaced {store : TableStore} {signature : FixedBytes 4}
    {oemTableId : Option (FixedBytes 8)} {key place : Nat} {old table : Bytes}
    (found : store.find signature oemTableId = some (place, table))
    (there : store.tables[key]? = some (some old)) (other : isMatch signature oemTableId old = false)
    (new : Bytes) : (store.replaced key new).find signature oemTableId = some (place, table) :=
  find_eq_some_iff.mpr ((find_eq_some_iff.mp found).of_replaced there other new)

theorem find_replaced_eq {store : TableStore} {signature : FixedBytes 4}
    {oemTableId : Option (FixedBytes 8)} {key : Nat} {old new : Bytes}
    (there : store.tables[key]? = some (some old)) (other : isMatch signature oemTableId old = false)
    (fresh : isMatch signature oemTableId new = false) :
    (store.replaced key new).find signature oemTableId = store.find signature oemTableId := by
  apply Option.ext
  rintro ⟨place, table⟩
  constructor
  · intro found
    exact find_eq_some_iff.mpr ((find_eq_some_iff.mp found).before_replaced there other fresh)
  · intro found
    exact find_replaced found there other new

theorem isMatch_toBytes (table : Table) : isMatch table.header.signature none table.toBytes = true := by
  have front : table.header.signature.bytes <+: table.toBytes := by
    simp [Table.toBytes, TableHeader.toBytes, List.append_assoc]
  rw [isMatch, List.isPrefixOf_iff_prefix.mpr front, Bool.and_true]

theorem reportFailure_answers {α : Type} {wording : Wording} {attempted : String}
    {x : Action TableStore ServiceError α} {store store' : TableStore} {a : α} :
    (reportFailure wording attempted x).Answers store a store' ↔ x.Answers store a store' := by
  unfold reportFailure
  rw [Action.answers_bind]
  constructor
  · rintro ⟨tried, middle, attempt, later⟩
    obtain ⟨result, state⟩ := Action.answers_attempt.mp attempt
    match tried with
    | .ok answer =>
      obtain ⟨rfl, rfl⟩ := Action.answers_pure.mp later
      exact ⟨result, state⟩
    | .error cause =>
      rw [Action.answers_report_bind] at later
      exact absurd later Action.answers_fail
  · rintro ⟨result, state⟩
    exact ⟨.ok a, store', Action.answers_attempt.mpr ⟨result, state⟩, Action.answers_pure.mpr ⟨rfl, rfl⟩⟩

theorem uninstall_answers {store store' : TableStore} {key : Nat}
    (done : (uninstall key).Answers store () store') :
    store.uninstallFaults store.uninstallAttempts = none ∧
      store' = { store with
        tables := store.tables.set key none, uninstallAttempts := store.uninstallAttempts + 1 } := by
  obtain ⟨result, rfl⟩ := done
  simp only [uninstall, Action.run] at result ⊢
  split at result
  · cases result
  · next table faultless _ =>
    exact ⟨faultless, rfl⟩
  · cases result

theorem install_answers {store store' : TableStore} {key : Nat} {table : Bytes}
    (done : (install table).Answers store key store') :
    key = store.tables.length ∧ store' = { store with
      tables := store.tables ++ [some table], installAttempts := store.installAttempts + 1 } := by
  obtain ⟨result, rfl⟩ := done
  simp only [install, Action.run] at result ⊢
  split at result
  · cases result
  · cases result
    exact ⟨rfl, rfl⟩

theorem replace_answers {wording : Wording} {store store' : TableStore} {key key' : Nat}
    {table : Bytes} (done : (replace wording key table).Answers store key' store') :
    key' = store.tables.length ∧ store' = store.replaced key table := by
  obtain ⟨_, middle, first, second⟩ := Action.answers_bind.mp done
  obtain ⟨_, rfl⟩ := uninstall_answers (reportFailure_answers.mp first)
  obtain ⟨rfl, rfl⟩ := install_answers (reportFailure_answers.mp second)
  exact ⟨List.length_set, rfl⟩

theorem mergeBlock_answers {oemTableId : FixedBytes 8} {block : Bytes} {store store' : TableStore}
    {key' : Nat} (done : (mergeBlock oemTableId block).Answers store key' store') :
    ∃ (key : Nat) (old : Bytes) (table merged : Table),
      store.find Table.dsdtSignature (some oemTableId) = some (key, old) ∧
      Table.parse Table.dsdtSignature old = .ok table ∧ table.append block = .ok merged ∧
      key' = store.tables.length ∧ store' = store.replaced key merged.toBytes := by
  rw [mergeBlock, Action.answers_get_bind] at done
  split at done
  · rw [Action.answers_report_bind] at done
    exact absurd done Action.answers_fail
  · next key old found =>
    obtain ⟨table, parsed, extending⟩ := Action.answers_ofExcept_bind_iff.mp done
    obtain ⟨merged, extended, replacing⟩ := Action.answers_ofExcept_bind_iff.mp extending
    obtain ⟨_, _, installed, reporting⟩ := Action.answers_bind.mp replacing
    rw [Action.answers_report_bind] at reporting
    obtain ⟨rfl, rfl⟩ := Action.answers_pure.mp reporting
    obtain ⟨rfl, rfl⟩ := replace_answers installed
    exact ⟨key, old, table, merged, found, Action.mapError_eq_ok.mp parsed,
      Action.mapError_eq_ok.mp extended, rfl, rfl⟩

theorem devicesTable_answers {σ : Type} {processors : List Processor} {config : BoardConfig}
    {s s' : σ} {table : Table}
    (done : (Processor.devicesTable processors config).Answers s table s') :
    s' = s ∧ Processor.devicesBlock processors = .ok table.body := by
  rw [Processor.devicesTable, Action.answers_report_bind] at done
  obtain ⟨block, encoded, building⟩ := Action.answers_ofExcept_bind_iff.mp done
  obtain ⟨built, rfl⟩ := Action.answers_ofExcept.mp building
  obtain ⟨length, _, whole⟩ := Action.bind_eq_ok.mp (Action.mapError_eq_ok.mp built)
  cases whole
  exact ⟨rfl, Action.mapError_eq_ok.mp encoded⟩

theorem installDevices_answers {processors : List Processor} {config : BoardConfig}
    {store store' : TableStore} {key' : Nat}
    (done : (installDevices processors config).Answers store key' store') :
    ∃ (key : Nat) (old : Bytes) (table merged : Table) (block : Bytes),
      store.find Table.dsdtSignature (some config.dsdtTableId) = some (key, old) ∧
      Table.parse Table.dsdtSignature old = .ok table ∧
      Processor.devicesBlock processors = .ok block ∧ table.append block = .ok merged ∧
      key' = store.tables.length ∧ store' = store.replaced key merged.toBytes := by
  obtain ⟨devices, _, listed, merging⟩ := Action.answers_bind.mp done
  obtain ⟨rfl, encoded⟩ := devicesTable_answers listed
  obtain ⟨_, _, placed, reporting⟩ := Action.answers_bind.mp merging
  rw [Action.answers_report_bind] at reporting
  obtain ⟨rfl, rfl⟩ := Action.answers_pure.mp reporting
  obtain ⟨key, old, table, merged, found, parsed, extended, rfl, rfl⟩ := mergeBlock_answers placed
  exact ⟨key, old, table, merged, devices.body, found, parsed, encoded, extended, rfl, rfl⟩

end FirmwareTables.TableStore
