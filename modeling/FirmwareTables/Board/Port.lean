import FirmwareTables.Services.Pcie

set_option autoImplicit false

namespace FirmwareTables

inductive EngineType where
  | unused
  | pcie
  | sata
  | ethernet
  deriving DecidableEq, Repr

inductive LinkSpeed where
  | maxSupported
  | gen1
  | gen2
  | gen3
  | gen4
  | gen5
  | unknown (raw : UInt8)
  deriving DecidableEq, Repr

def LinkSpeed.ofRaw (raw : UInt8) : LinkSpeed :=
  if raw = 0 then .maxSupported
  else if raw = 1 then .gen1
  else if raw = 2 then .gen2
  else if raw = 3 then .gen3
  else if raw = 4 then .gen4
  else if raw = 5 then .gen5
  else .unknown raw

inductive EndpointStatus where
  | notPresent
  | detected
  | unknown
  deriving DecidableEq, Repr

-- Slot zero stands for a port without a slot.
structure DxioPort where
  flags : UInt32 := 0
  engineType : EngineType := .unused
  startLane : UInt16 := 0
  endLane : UInt16 := 0
  present : Bool := false
  slot : UInt16 := 0
  linkSpeed : LinkSpeed := .maxSupported
  endpoint : EndpointStatus := .notPresent
  deriving DecidableEq, Repr

namespace DxioPort

def terminator : UInt32 := 0x80000000

def isLast (port : DxioPort) : Bool := port.flags &&& terminator != 0

def hasSlot (port : DxioPort) : Bool := 0 < port.slot && port.present

def laneSpan (port : DxioPort) : Option UInt16 :=
  if port.startLane ≤ port.endLane then some (port.endLane - port.startLane) else none

def upToLast : List DxioPort → List DxioPort
  | [] => []
  | port :: rest => if port.isLast then [port] else port :: upToLast rest

def populated (table : List DxioPort) : List DxioPort := (upToLast table).filter (·.hasSlot)

end DxioPort

abbrev DxioTables : Type := Nat → Option (List DxioPort)

def DxioTables.ofList (tables : List (List DxioPort)) : DxioTables := fun socket => tables[socket]?

end FirmwareTables
