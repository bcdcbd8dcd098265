import FirmwareTables.Aml.PackageLength
import FirmwareTables.Aml.Path

set_option autoImplicit false

namespace FirmwareTables.Aml

inductive Integer where
  | byte (value : UInt8)
  | word (value : UInt16)
  | dword (value : UInt32)
  | qword (value : UInt64)
  deriving DecidableEq

namespace Integer

def value : Integer → Nat
  | .byte v => v.toNat
  | .word v => v.toNat
  | .dword v => v.toNat
  | .qword v => v.toNat

def ofWord (n : UInt64) : Integer :=
  if n.toNat < 0x100 then .byte n.toUInt8
  else if n.toNat < 0x10000 then .word n.toUInt16
  else if n.toNat < 0x100000000 then .dword n.toUInt32
  else .qword n

def encode : Integer → Bytes
  | .byte v => if v = 0 ∨ v = 1 then [v] else [0x0A, v]
  | .word v => 0x0B :: Bytes.word16 v
  | .dword v => 0x0C :: Bytes.word32 v
  | .qword v => 0x0E :: Bytes.word64 v

end Integer

inductive Term where
  | integer (value : Integer)
  | string (content : Bytes)
  | path (path : Path)
  | name (path : Path) (value : Term)
  | device (path : Path) (children : List Term)
  | scope (path : Path) (children : List Term)
  | method (path : Path) (arguments : UInt8) (serialized : Bool) (body : List Term)
  | ret (value : Term)

namespace Term

def ofText (text : String) : Term := .string text.toUTF8.toList

def methodFlags (arguments : UInt8) (serialized : Bool) : UInt8 :=
  (arguments &&& 7) ||| (if serialized then 8 else 0)

mutual

def encode : Term → Except PathError Bytes
  | .integer v => .ok v.encode
  | .string content => .ok (0x0D :: content ++ [0])
  | .path p => p.encode
  | .name p term => do
    let target ← p.encode
    let value ← term.encode
    return 0x08 :: target ++ value
  | .device p children => do
    let target ← p.encode
    let block ← encodeAll children
    return package [0x5B, 0x82] (target ++ block)
  | .scope p children => do
    let target ← p.encode
    let block ← encodeAll children
    return package [0x10] (target ++ block)
  | .method p arguments serialized body => do
    let target ← p.encode
    let block ← encodeAll body
    return package [0x14] (target ++ [methodFlags arguments serialized] ++ block)
  | .ret term => do
    let value ← term.encode
    return 0xA4 :: value

def encodeAll : List Term → Except PathError Bytes
  | [] => .ok []
  | term :: rest => do
    let front ← term.encode
    let back ← encodeAll rest
    return front ++ back

end

end Term

end FirmwareTables.Aml
