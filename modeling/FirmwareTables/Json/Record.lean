import FirmwareTables.Json.Reader

set_option autoImplicit false

namespace FirmwareTables.Json

structure Field (ρ : Type) where
  name : String
  read : ρ → Reader ρ

namespace Reader

variable {ρ : Type}

def hasKey (first : Bool) : Reader Bool := do
  match ← peek with
  | none => throw .endOfText
  | some '\x7d' => return false
  | some c =>
    if first then
      if c = '"' then return true else throw .malformed
    else if c = ',' then
      skip
      match ← peek with
      | none => throw .endOfText
      | some '"' => return true
      | some _ => throw .malformed
    else throw .malformed

def colon : Reader Unit := do
  match ← peek with
  | none => throw .endOfText
  | some ':' => skip
  | some _ => throw .malformed

def without (key : String) (fields : List (Field ρ)) : List (Field ρ) :=
  fields.filter (·.name ≠ key)

theorem without_length {key : String} {fields : List (Field ρ)} {field : Field ρ}
    (h : fields.find? (·.name = key) = some field) :
    (without key fields).length < fields.length := by
  have named := List.find?_some h
  have member := List.mem_of_find?_eq_some h
  apply List.length_filter_lt_length_iff_exists.2
  exact ⟨field, member, by simpa using named⟩

-- The members of an object; `unread` holds the fields that have not been given yet.
def members (unread : List (Field ρ)) (first : Bool) (record : ρ) : Reader ρ := do
  if ← hasKey first then
    skip
    let key ← stringBody
    match _h : unread.find? (·.name = key) with
    | none => throw .mismatch
    | some field =>
      colon
      let record ← field.read record
      members (without key unread) false record
  else
    skip
    return record
  termination_by unread.length
  decreasing_by exact without_length _h

-- The values of an array; it may end early where the remaining fields have a value already.
def values (optional : Bool) : List (Field ρ) → Bool → ρ → Reader ρ
  | [], _, record => return record
  | field :: rest, first, record => do
    if ← hasElement first then
      let record ← field.read record
      values optional rest false record
    else if optional then return record
    else throw .mismatch

def record (fields : List (Field ρ)) (optional : Bool) (initial : ρ) : Reader ρ := do
  let c ← peekValue
  if c = '\x7b' then
    skip
    members fields true initial
  else if c = '[' then
    skip
    let result ← values optional fields true initial
    closeArray
    return result
  else wrongType

end Reader

end FirmwareTables.Json
