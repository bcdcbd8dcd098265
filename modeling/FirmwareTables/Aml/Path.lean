import FirmwareTables.Bytes

set_option autoImplicit false

namespace FirmwareTables.Aml

inductive PathError where
  | empty
  | segmentLength
  deriving DecidableEq, Repr

def PathError.message : PathError → String
  | .empty => "Aml Path is empty"
  | .segmentLength => "Invalid name part length"

structure Path where
  rooted : Bool
  segments : List (FixedBytes 4)
  deriving DecidableEq

namespace Path

def rootByte : UInt8 := 0x5C

def separator : UInt8 := 0x2E

def pieces (bytes : Bytes) : List Bytes :=
  bytes.foldr (fun b parts =>
    if b = separator then [] :: parts
    else match parts with
      | [] => [[b]]
      | part :: rest => (b :: part) :: rest) [[]]

def segment (piece : Bytes) : Except PathError (FixedBytes 4) :=
  if h : piece.length = 4 then .ok ⟨piece, h⟩ else .error .segmentLength

-- The leading backslash is optional, and lengths count UTF-8 bytes.
def ofBytes (bytes : Bytes) : Except PathError Path :=
  match bytes with
  | [] => .error .segmentLength
  | b :: rest =>
    if b = rootByte then return { rooted := true, segments := ← (pieces rest).mapM segment }
    else return { rooted := false, segments := ← (pieces (b :: rest)).mapM segment }

def ofText (text : String) : Except PathError Path := ofBytes text.toUTF8.toList

-- Two segments follow a dual-name mark, more follow a multi-name mark and their number.
def segmentMark (count : Nat) : Except PathError Bytes :=
  if count = 0 then .error .empty
  else if count = 1 then .ok []
  else if count = 2 then .ok [0x2E]
  else if count < 256 then .ok [0x2F, UInt8.ofNat count]
  else .error .segmentLength

def encode (path : Path) : Except PathError Bytes := do
  let mark ← segmentMark path.segments.length
  return (if path.rooted then [rootByte] else []) ++ mark ++ path.segments.flatMap (·.bytes)

end Path

end FirmwareTables.Aml
