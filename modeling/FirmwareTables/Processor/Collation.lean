import FirmwareTables.Processor.Basic
import FirmwareTables.Topology.CcdOrder

set_option autoImplicit false

namespace FirmwareTables

inductive CollationError where
  | outOfResources
  | tooManyProcessors (count : Nat)
  | idTooWide (index : Nat) (id : UInt64)
  | service (cause : ServiceError)
  deriving DecidableEq, Repr

namespace CollationError

def message : CollationError → String
  | .outOfResources => "Cannot allocate the processor list"
  | .tooManyProcessors count => s!"Too many processors for 32-bit UIDs: {count}"
  | .idTooWide index id =>
    s!"Processor {index} has an identifier wider than 32 bits: " ++ Text.prefixedHex id.toNat
  | .service cause => "MP services failure: " ++ cause.message

def toServiceError : CollationError → ServiceError
  | .outOfResources => .outOfResources
  | .tooManyProcessors _ => .invalidParameter
  | .idTooWide .. => .invalidParameter
  | .service cause => cause

end CollationError

class Collatable (α : Type) where
  apicId : α → UInt32
  withUid : α → UInt32 → α

export Collatable (apicId withUid)

instance : Collatable Processor where
  apicId processor := processor.id
  withUid processor uid := { processor with uid }

structure Collation where
  decoder : Topology.Decoder
  ccdOrder : Topology.CcdOrder
  multiSocket : Bool

namespace Collation

variable {α : Type} [Collatable α]

def isSecondThread (item : α) : Bool := apicId item &&& 1 == 1

def rank (collation : Collation) (item : α) : UInt32 :=
  collation.ccdOrder.locationRank (collation.decoder.decode (apicId item))

def sortByCcd (collation : Collation) (items : List α) : List α :=
  items.mergeSort fun a b => decide (collation.rank a ≤ collation.rank b)

def sortSockets (collation : Collation) (items : List α) : List α :=
  if collation.multiSocket then
    let half := items.length / 2
    collation.sortByCcd (items.take half) ++ collation.sortByCcd (items.drop half)
  else collation.sortByCcd items

-- One item decides for the whole list: threads are told apart when the second one of the sorted list
-- has an odd identifier, whatever width the decoder has for threads.
def threadsDetected : List α → Bool
  | _ :: second :: _ => isSecondThread second
  | _ => false

def partitionThreads (items : List α) : List α :=
  items.filter (fun item => !isSecondThread item) ++ items.filter isSecondThread

def number (items : List α) : List α :=
  items.mapIdx fun index item => withUid item (UInt32.ofNat index)

def arrange (collation : Collation) (items : List α) : List α :=
  let sorted := collation.sortSockets items
  if threadsDetected sorted then partitionThreads sorted else sorted

def collate (collation : Collation) (items : List α) : Except CollationError (List α) :=
  if items.length < 0x100000000 then .ok (number (collation.arrange items))
  else .error (.tooManyProcessors items.length)

end Collation

end FirmwareTables
