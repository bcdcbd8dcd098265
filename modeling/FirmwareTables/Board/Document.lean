import FirmwareTables.Board.Config
import FirmwareTables.Json.Record

set_option autoImplicit false

namespace FirmwareTables.BoardConfig

open Json (Reader)

def byteField (name : String) (put : BoardConfig → UInt8 → BoardConfig) : Json.Field BoardConfig where
  name
  read config := return put config (UInt8.ofNat (← Reader.natural 0x100))

def wordField (name : String) (put : BoardConfig → UInt32 → BoardConfig) :
    Json.Field BoardConfig where
  name
  read config := return put config (UInt32.ofNat (← Reader.natural 0x100000000))

def textField (field : OemField) (put : BoardConfig → String → BoardConfig) :
    Json.Field BoardConfig where
  name := field.name
  read config := return put config (← Reader.string)

def readCcdOrder : Reader Topology.CcdOrder := do
  let ccds ← Reader.array (Reader.natural 0x100000000) 16
  if h : ccds.length = 16 then
    return { ccds := ccds.map UInt32.ofNat, length_eq := by simp [h] }
  else throw .mismatch

def fields : List (Json.Field BoardConfig) :=
  [byteField "max_cpu_socket_count" fun c n => { c with maxSockets := n },
    byteField "number_of_physical_sockets" fun c n => { c with populatedSockets := n },
    { name := "ccd_order", read := fun c => return { c with ccdOrder := ← readCcdOrder } },
    byteField "fch_ioapic_id" fun c n => { c with fchIoApicId := n },
    wordField "fch_ioapic_address" fun c n => { c with fchIoApicAddress := n },
    byteField "slot_characteristics1" fun c n => { c with slotCharacteristics1 := n },
    byteField "slot_characteristics2" fun c n => { c with slotCharacteristics2 := n },
    textField .dsdtOemTableId fun c s => { c with dsdtOemTableId := s },
    textField .ssdtOemId fun c s => { c with ssdtOemId := s },
    textField .ssdtOemTableId fun c s => { c with ssdtOemTableId := s }]

inductive DocumentError where
  | json (problem : Json.Problem)
  | config (cause : ConfigError)
  deriving DecidableEq, Repr

def read (text : String) : Except Json.Problem BoardConfig :=
  Reader.document (Reader.record fields true {}) text

def ofDocument (text : String) : Except DocumentError BoardConfig := do
  let config ← (read text).mapError .json
  config.validate.mapError .config
  return config

end FirmwareTables.BoardConfig
