import FirmwareTables.Action
import FirmwareTables.Table.Header

set_option autoImplicit false

namespace FirmwareTables

structure Table where
  header : TableHeader
  body : Bytes
  deriving DecidableEq

namespace Table

def creatorId : FixedBytes 4 := ⟨[0x41, 0x4D, 0x44, 0x20], rfl⟩

def creatorRevision : UInt32 := 2

def dsdtSignature : FixedBytes 4 := ⟨[0x44, 0x53, 0x44, 0x54], rfl⟩

def ssdtSignature : FixedBytes 4 := ⟨[0x53, 0x53, 0x44, 0x54], rfl⟩

def madtSignature : FixedBytes 4 := ⟨[0x41, 0x50, 0x49, 0x43], rfl⟩

def toBytes (table : Table) : Bytes := table.header.toBytes ++ table.body

def size (table : Table) : Nat := table.header.length.toNat

def stamped (table : Table) : Table :=
  let cleared := { table with header.checksum := 0 }
  { table with header.checksum := checksum cleared.toBytes }

def declaredLength (size : Nat) : Except TableError UInt32 :=
  if size < 0x100000000 then .ok (UInt32.ofNat size) else .error .tooLarge

structure Origin where
  oemId : FixedBytes 6
  oemTableId : FixedBytes 8
  oemRevision : UInt32
  deriving DecidableEq

def build (signature : FixedBytes 4) (revision : UInt8) (origin : Origin) (body : Bytes) :
    Except TableError Table := do
  let length ← declaredLength (headerSize + body.length)
  return stamped {
    header := {
      signature, length, revision
      checksum := 0
      oemId := origin.oemId
      oemTableId := origin.oemTableId
      oemRevision := origin.oemRevision
      creatorId, creatorRevision }
    body }

def dsdt (origin : Origin) (block : Bytes) : Except TableError Table :=
  build dsdtSignature 2 origin block

def ssdt (origin : Origin) (block : Bytes) : Except TableError Table :=
  build ssdtSignature 2 origin block

-- Bytes past the declared length are not part of the table.
def parse (signature : FixedBytes 4) (bytes : Bytes) : Except TableError Table := do
  let header ← TableHeader.parse bytes
  if header.signature = signature then
    return { header, body := (bytes.take header.length.toNat).drop headerSize }
  else
    throw (.unexpectedSignature header.signature)

def append (table : Table) (more : Bytes) : Except TableError Table := do
  let length ← declaredLength (table.size + more.length)
  return stamped { header := { table.header with length }, body := table.body ++ more }

-- Where the table is held. That the new length fits is settled before the first write.
def extend (more : Bytes) : Action Table TableError Unit := do
  let table ← Action.get
  let length ← Action.ofExcept (declaredLength (table.size + more.length))
  Action.modify fun table => { table with body := table.body ++ more }
  Action.modify fun table => { table with header.length := length }
  Action.modify stamped

end Table

end FirmwareTables
