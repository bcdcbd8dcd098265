import FirmwareTables.Processor.Collation
import FirmwareTables.Services.Sequence

set_option autoImplicit false

namespace FirmwareTables.Processor

-- A processor takes 36 bytes, and an address space has 2 ^ 47 of them.
def capacity : Nat := 0x800000000000 / 36

def readAt (mp : MpServices) (decoder : Topology.Decoder) (index : Nat) :
    Except CollationError Processor :=
  match mp.info index with
  | .error cause => .error (.service cause)
  | .ok info =>
    if info.id.toNat < 0x100000000 then
      let id := info.id.toUInt32
      .ok { id, status := info.status, location := decoder.decode id, uid := 0 }
    else .error (.idTooWide index info.id)

def enumerate {σ : Type} (mp : MpServices) (decoder : Topology.Decoder) :
    Action σ CollationError (List Processor) := do
  let (total, enabled) ← Action.ofExcept (mp.count.mapError .service)
  Action.report .debug .collation s!"collator: {total} logical processors, {enabled} enabled"
  if capacity < total then
    Action.fail .outOfResources
  else
    Action.ofExcept (Services.readRange (readAt mp decoder) 0 total)

end FirmwareTables.Processor
