import FirmwareTables.Services.Error
import FirmwareTables.Topology.Decoder

set_option autoImplicit false

namespace FirmwareTables

abbrev ProcessorStatus := UInt32

namespace ProcessorStatus

def enabled : ProcessorStatus := 2

def healthy : ProcessorStatus := 4

def has (status flag : ProcessorStatus) : Bool := status &&& flag == flag

def isPresent (status : ProcessorStatus) : Bool := status != 0

-- Every processor is shown as present; enabled and functioning as it says.
def acpiStatus (status : ProcessorStatus) : UInt32 :=
  5 ||| (if has status enabled then 2 else 0) ||| (if has status healthy then 8 else 0)

end ProcessorStatus

structure Processor where
  id : UInt32
  status : ProcessorStatus
  location : Topology.Location
  uid : UInt32
  deriving DecidableEq, Repr

def Processor.isPresent (processor : Processor) : Bool :=
  ProcessorStatus.isPresent processor.status

structure ProcessorInfo where
  id : UInt64
  status : ProcessorStatus
  deriving DecidableEq, Repr

structure MpServices where
  count : Except ServiceError (Nat × Nat)
  info : Nat → Except ServiceError ProcessorInfo

structure ProcessorList where
  processors : List ProcessorInfo
  total : Option Nat := none
  countFault : Option ServiceError := none
  infoFault : Option ServiceError := none

namespace ProcessorList

def enabledCount (list : ProcessorList) : Nat :=
  list.processors.countP fun processor => ProcessorStatus.has processor.status .enabled

-- The total may be set apart from the list; processors past the list cannot be read.
def services (list : ProcessorList) : MpServices where
  count :=
    match list.countFault with
    | some cause => .error cause
    | none => .ok (list.total.getD list.processors.length, list.enabledCount)
  info :=
    let known := list.processors.toArray
    fun index =>
      match list.infoFault, known[index]? with
      | some cause, _ => .error cause
      | none, some info => .ok info
      | none, none => .error .invalidParameter

end ProcessorList

end FirmwareTables
