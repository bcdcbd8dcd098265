import FirmwareTables.Madt.Structure
import FirmwareTables.Table.Basic

set_option autoImplicit false

namespace FirmwareTables.Madt

def headerSize : Nat := 44

def revision : UInt8 := 6

def build (origin : Table.Origin) (baseAddress : UInt32) (structures : Bytes) :
    Except TableError Table :=
  Table.build Table.madtSignature revision origin
    (Bytes.word32 baseAddress ++ Bytes.word32 0 ++ structures)

structure Entry where
  offset : Nat
  content : Structure
  bytes : Bytes
  deriving DecidableEq

def cut : Bytes → Option (Bytes × Bytes)
  | number :: length :: rest =>
    if 2 ≤ length then Bytes.splitExact length.toNat (number :: length :: rest) else none
  | _ => none

theorem cut_eq_some {bytes front back : Bytes} (h : cut bytes = some (front, back)) :
    bytes = front ++ back ∧ 2 ≤ front.length := by
  match bytes, h with
  | number :: length :: rest, h =>
    rw [cut] at h
    split at h
    next long =>
      obtain ⟨size, whole⟩ := Bytes.splitExact_eq_some_iff.mp h
      rw [size]
      exact ⟨whole, UInt8.le_iff_toNat_le.mp long⟩
    next => cases h
  | [], h => cases h
  | [_], h => cases h

structure Walk where
  entries : List Entry
  stuck : Option Nat
  deriving DecidableEq

def walkFrom (offset : Nat) (bytes : Bytes) : Walk :=
  match bytes with
  | [] => { entries := [], stuck := none }
  | b :: more =>
    match _h : cut (b :: more) with
    | none => { entries := [], stuck := some offset }
    | some (front, back) =>
      match Structure.read front with
      | none => { entries := [], stuck := some offset }
      | some content =>
        let later := walkFrom (offset + front.length) back
        { later with entries := { offset, content, bytes := front } :: later.entries }
  termination_by bytes.length
  decreasing_by
    obtain ⟨whole, long⟩ := cut_eq_some _h
    have total := congrArg List.length whole
    simp only [List.length_append] at total
    omega

-- The item at an offset and where to go on; behind what is no structure, there is nothing to go on with.
def next (declared : Bytes) (offset : Nat) : Option (Except TableError Entry × Nat) :=
  if declared.length ≤ offset then none
  else
    match cut (declared.drop offset) with
    | none => some (.error (.malformedStructure offset), declared.length)
    | some (front, _) =>
      match Structure.read front with
      | none => some (.error (.malformedStructure offset), declared.length)
      | some content => some (.ok { offset, content, bytes := front }, offset + front.length)

def structureArea (table : Bytes) : Except TableError Bytes := do
  let header ← TableHeader.parse table
  if header.signature ≠ Table.madtSignature then
    throw (.unexpectedSignature header.signature)
  let declared := header.length.toNat
  if declared < headerSize then
    throw (.tooShort headerSize declared)
  return (table.take declared).drop headerSize

def walk (table : Bytes) : Except TableError Walk := do
  return walkFrom headerSize (← structureArea table)

def entries (table : Bytes) : Except TableError (List Entry) := do
  let found ← walk table
  match found.stuck with
  | none => return found.entries
  | some offset => throw (.malformedStructure offset)

end FirmwareTables.Madt
