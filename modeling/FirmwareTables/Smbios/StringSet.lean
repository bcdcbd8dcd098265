import FirmwareTables.Action
import FirmwareTables.Bytes
import FirmwareTables.Text.Quoted

set_option autoImplicit false

namespace FirmwareTables.Smbios

inductive StructureError where
  | embeddedNul (text : String)
  | tooManyStrings
  | tooLarge (size : Nat)
  deriving DecidableEq, Repr

def StructureError.message : StructureError → String
  | .embeddedNul text => "String contains an embedded NUL byte: " ++ Text.quoted text
  | .tooManyStrings => "More than 255 strings in a single structure"
  | .tooLarge size => s!"Formatted area of {size} bytes does not fit in the structure length field"

structure StringSet where
  strings : List String
  deriving DecidableEq, Repr

namespace StringSet

def empty : StringSet := ⟨[]⟩

def size (set : StringSet) : Nat := set.strings.length

def add (set : StringSet) (text : String) : Except StructureError (UInt8 × StringSet) :=
  if text.toUTF8.toList.contains 0 then .error (.embeddedNul text)
  else if set.size + 1 < 256 then
    .ok (UInt8.ofNat (set.size + 1), ⟨set.strings ++ [text]⟩)
  else .error .tooManyStrings

-- Where the set is held. That the string can be added is settled before the set is written to.
def insert (text : String) : Action StringSet StructureError UInt8 := do
  if text.toUTF8.toList.contains 0 then
    Action.fail (.embeddedNul text)
  else
    let set ← Action.get
    if set.size + 1 < 256 then
      Action.modify fun set => ⟨set.strings ++ [text]⟩
      return UInt8.ofNat (set.size + 1)
    else
      Action.fail .tooManyStrings

-- An empty set still takes two NUL bytes.
def toBytes (set : StringSet) : Bytes :=
  match set.strings with
  | [] => [0, 0]
  | strings => strings.flatMap (fun text => text.toUTF8.toList ++ [0]) ++ [0]

end StringSet

end FirmwareTables.Smbios
