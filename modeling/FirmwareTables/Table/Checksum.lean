import FirmwareTables.Action
import FirmwareTables.Table.Error

set_option autoImplicit false

namespace FirmwareTables.Table

def byteSum (bytes : Bytes) : UInt8 := bytes.foldl (· + ·) 0

def checksumIsValid (bytes : Bytes) : Bool := byteSum bytes == 0

def checksum (bytes : Bytes) : UInt8 := 0 - byteSum bytes

-- The same byte for a table that is held in pieces, added up from the front.
def checksumOf (pieces : List Bytes) : UInt8 :=
  255 - pieces.foldl (fun sum piece => piece.foldl (· + ·) sum) 0 + 1

def headerSize : Nat := 36

def checksumOffset : Nat := 9

def stampChecksum (table : Bytes) : Bytes :=
  let cleared := table.set checksumOffset 0
  cleared.set checksumOffset (checksum cleared)

def updateChecksum (table : Bytes) : Except TableError Bytes :=
  if table.length < headerSize then .error (.tooShort headerSize table.length)
  else .ok (stampChecksum table)

-- Where the table is held. That there is a header is settled before the first write.
def restamp : Action Bytes TableError Unit := do
  let buffer ← Action.get
  if buffer.length < headerSize then
    Action.fail (.tooShort headerSize buffer.length)
  else
    Action.modify fun buffer => buffer.set checksumOffset 0
    Action.modify fun buffer => buffer.set checksumOffset (checksumOf [buffer])

end FirmwareTables.Table
