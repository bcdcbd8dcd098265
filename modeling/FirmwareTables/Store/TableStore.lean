import FirmwareTables.Action
import FirmwareTables.Store.Error

set_option autoImplicit false

namespace FirmwareTables

abbrev Faults := Nat → Option ServiceError

namespace Faults

def never : Faults := fun _ => none

-- Every attempt fails but the first `count` ones.
def after (count : Nat) (cause : ServiceError) : Faults := fun attempt =>
  if count ≤ attempt then some cause else none

end Faults

structure TableStore where
  tables : List (Option Bytes) := []
  installFaults : Faults := Faults.never
  uninstallFaults : Faults := Faults.never
  installAttempts : Nat := 0
  uninstallAttempts : Nat := 0

namespace TableStore

def withFaults (store : TableStore) (install uninstall : Faults) : TableStore where
  tables := store.tables
  installFaults := install
  uninstallFaults := uninstall

def oemTableIdOf (table : Bytes) : Option Bytes :=
  let field := (table.drop 16).take 8
  if field.length = 8 then some field else none

def isMatch (signature : FixedBytes 4) (oemTableId : Option (FixedBytes 8)) (table : Bytes) : Bool :=
  signature.bytes.isPrefixOf table &&
    match oemTableId with
    | none => true
    | some id => oemTableIdOf table == some id.bytes

def findFrom (test : Bytes → Bool) : Nat → List (Option Bytes) → Option (Nat × Bytes)
  | _, [] => none
  | key, none :: rest => findFrom test (key + 1) rest
  | key, some table :: rest =>
    if test table then some (key, table) else findFrom test (key + 1) rest

def find (store : TableStore) (signature : FixedBytes 4) (oemTableId : Option (FixedBytes 8)) :
    Option (Nat × Bytes) :=
  findFrom (isMatch signature oemTableId) 0 store.tables

def withSignature (store : TableStore) (signature : FixedBytes 4) : List Bytes :=
  (store.tables.filterMap id).filter (isMatch signature none)

-- Takes a table out; a fault strikes before the key is looked at.
def uninstall (key : Nat) : Action TableStore ServiceError Unit := fun store =>
  let tried := { store with uninstallAttempts := store.uninstallAttempts + 1 }
  match store.uninstallFaults store.uninstallAttempts, store.tables[key]? with
  | some cause, _ => ⟨.error cause, tried, []⟩
  | none, some (some _) => ⟨.ok (), { tried with tables := store.tables.set key none }, []⟩
  | none, _ => ⟨.error .notFound, tried, []⟩

def install (table : Bytes) : Action TableStore ServiceError Nat := fun store =>
  let tried := { store with installAttempts := store.installAttempts + 1 }
  match store.installFaults store.installAttempts with
  | some cause => ⟨.error cause, tried, []⟩
  | none => ⟨.ok store.tables.length, { tried with tables := store.tables ++ [some table] }, []⟩

structure Wording where
  component : Component
  topic : String
  former : String
  latter : String

def reportFailure {α : Type} (wording : Wording) (attempted : String)
    (x : Action TableStore ServiceError α) : Action TableStore AcpiError α := do
  match ← x.attempt with
  | .ok a => return a
  | .error cause =>
    Action.report .error wording.component
      (wording.topic ++ ": cannot " ++ attempted ++ ": " ++ cause.message)
    Action.fail (.service cause)

def replace (wording : Wording) (key : Nat) (table : Bytes) : Action TableStore AcpiError Nat := do
  reportFailure wording ("uninstall the " ++ wording.former) (uninstall key)
  reportFailure wording ("install the " ++ wording.latter) (install table)

end TableStore

end FirmwareTables
