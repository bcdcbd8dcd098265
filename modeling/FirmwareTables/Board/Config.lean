import FirmwareTables.Bytes
import FirmwareTables.Text.Quoted
import FirmwareTables.Topology.CcdOrder

set_option autoImplicit false

namespace FirmwareTables

structure BoardConfig where
  maxSockets : UInt8 := 1
  populatedSockets : UInt8 := 1
  ccdOrder : Topology.CcdOrder := .turin
  fchIoApicId : UInt8 := 0xF0
  fchIoApicAddress : UInt32 := 0xFEC00000
  slotCharacteristics1 : UInt8 := 0x04
  slotCharacteristics2 : UInt8 := 0x01
  dsdtOemTableId : String := "AmdTable"
  ssdtOemId : String := "AMD   "
  ssdtOemTableId : String := "SSDTPROC"
  deriving DecidableEq

inductive OemField where
  | dsdtOemTableId
  | ssdtOemId
  | ssdtOemTableId
  deriving DecidableEq, Repr

namespace OemField

def name : OemField → String
  | .dsdtOemTableId => "dsdt_oem_table_id"
  | .ssdtOemId => "ssdt_oem_id"
  | .ssdtOemTableId => "ssdt_oem_table_id"

def width : OemField → Nat
  | .dsdtOemTableId => 8
  | .ssdtOemId => 6
  | .ssdtOemTableId => 8

end OemField

inductive ConfigError where
  | duplicateCcd (ccd : UInt32)
  | socketCount (populated max : UInt8)
  | invalidOemField (field : OemField) (value : String)
  deriving DecidableEq, Repr

def ConfigError.message : ConfigError → String
  | .duplicateCcd ccd => s!"The CCD order lists CCD {ccd.toNat} more than once"
  | .socketCount populated max =>
    s!"Invalid socket counts: {populated.toNat} physical sockets for a maximum of {max.toNat}"
  | .invalidOemField field value =>
    "\x60" ++ field.name ++ s!"\x60 must hold at most {field.width} ASCII characters: " ++
      Text.quoted value

namespace BoardConfig

def multiSocket (config : BoardConfig) : Bool := 1 < config.maxSockets

def dsdtTableId (config : BoardConfig) : FixedBytes 8 := .ofText 8 config.dsdtOemTableId

def ssdtId (config : BoardConfig) : FixedBytes 6 := .ofText 6 config.ssdtOemId

def ssdtTableId (config : BoardConfig) : FixedBytes 8 := .ofText 8 config.ssdtOemTableId

def fits (field : OemField) (value : String) : Bool :=
  value.utf8ByteSize ≤ field.width && value.toList.all (·.toNat < 128)

def checkOemField (field : OemField) (value : String) : Except ConfigError Unit :=
  if fits field value then .ok () else .error (.invalidOemField field value)

def checkCcdOrder (order : Topology.CcdOrder) : Except ConfigError Unit :=
  if order.isPermutation then .ok ()
  else match order.firstRepeat with
    | some ccd => .error (.duplicateCcd ccd)
    | none => .ok ()

def checkSockets (config : BoardConfig) : Except ConfigError Unit :=
  if config.maxSockets = 0 ∨ config.populatedSockets = 0 ∨
      config.maxSockets < config.populatedSockets then
    .error (.socketCount config.populatedSockets config.maxSockets)
  else .ok ()

def validate (config : BoardConfig) : Except ConfigError Unit := do
  checkCcdOrder config.ccdOrder
  config.checkSockets
  checkOemField .dsdtOemTableId config.dsdtOemTableId
  checkOemField .ssdtOemId config.ssdtOemId
  checkOemField .ssdtOemTableId config.ssdtOemTableId

end BoardConfig

end FirmwareTables
