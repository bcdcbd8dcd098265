import FirmwareTables.Action
import FirmwareTables.Bytes
import FirmwareTables.Services.Error

set_option autoImplicit false

namespace FirmwareTables

-- `fault` says for each number of stored structures whether the next one is refused.
structure StructureStore where
  structures : List Bytes := []
  fault : Nat → Option ServiceError := fun _ => none

namespace StructureStore

def add (structureBytes : Bytes) : Action StructureStore ServiceError UInt16 := fun store =>
  let count := store.structures.length
  match store.fault count with
  | some cause => ⟨.error cause, store, []⟩
  | none =>
    if count < 0x10000 then
      ⟨.ok (UInt16.ofNat count),
        { store with structures := store.structures ++ [structureBytes] }, []⟩
    else ⟨.error .outOfResources, store, []⟩

end StructureStore

end FirmwareTables
