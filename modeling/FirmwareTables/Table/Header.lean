import FirmwareTables.Table.Checksum

set_option autoImplicit false

namespace FirmwareTables

structure TableHeader where
  signature : FixedBytes 4
  length : UInt32
  revision : UInt8
  checksum : UInt8
  oemId : FixedBytes 6
  oemTableId : FixedBytes 8
  oemRevision : UInt32
  creatorId : FixedBytes 4
  creatorRevision : UInt32
  deriving DecidableEq

namespace TableHeader

def toBytes (header : TableHeader) : Bytes :=
  header.signature.bytes ++ Bytes.word32 header.length ++ [header.revision, header.checksum] ++
    header.oemId.bytes ++ header.oemTableId.bytes ++ Bytes.word32 header.oemRevision ++
    header.creatorId.bytes ++ Bytes.word32 header.creatorRevision

@[simp] theorem length_toBytes (header : TableHeader) :
    header.toBytes.length = Table.headerSize := by
  simp [toBytes, Table.headerSize]

def read (bytes : Bytes) : Option TableHeader := do
  let (signature, bytes) ← FixedBytes.read 4 bytes
  let (length, bytes) ← FixedBytes.read 4 bytes
  let (revision, bytes) ← FixedBytes.read 1 bytes
  let (checksum, bytes) ← FixedBytes.read 1 bytes
  let (oemId, bytes) ← FixedBytes.read 6 bytes
  let (oemTableId, bytes) ← FixedBytes.read 8 bytes
  let (oemRevision, bytes) ← FixedBytes.read 4 bytes
  let (creatorId, bytes) ← FixedBytes.read 4 bytes
  let (creatorRevision, _) ← FixedBytes.read 4 bytes
  return {
    signature, oemId, oemTableId, creatorId
    length := Bytes.toWord32 length.bytes
    revision := UInt8.ofNat (Bytes.ofLittleEndian revision.bytes)
    checksum := UInt8.ofNat (Bytes.ofLittleEndian checksum.bytes)
    oemRevision := Bytes.toWord32 oemRevision.bytes
    creatorRevision := Bytes.toWord32 creatorRevision.bytes }

def lengthField (bytes : Bytes) : Nat := Bytes.ofLittleEndian ((bytes.drop 4).take 4)

def parse (bytes : Bytes) : Except TableError TableHeader :=
  match read (bytes.take Table.headerSize) with
  | none => .error (.tooShort Table.headerSize bytes.length)
  | some header =>
    let declared := header.length.toNat
    if declared < Table.headerSize ∨ bytes.length < declared then
      .error (.lengthMismatch declared bytes.length)
    else .ok header

end TableHeader

end FirmwareTables
