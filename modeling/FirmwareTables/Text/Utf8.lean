import FirmwareTables.Bytes

set_option autoImplicit false

namespace FirmwareTables.Text

def replacement : Char := '\uFFFD'

-- How a character with the lead byte `lead` goes on: the value bits of the lead byte, the bounds
-- of the second byte, and how many bytes follow the second one.
def multibyteShape (lead : UInt8) : Option (Nat × UInt8 × UInt8 × Nat) :=
  if lead < 0xC2 then none
  else if lead < 0xE0 then some (lead.toNat - 0xC0, 0x80, 0xBF, 0)
  else if lead = 0xE0 then some (0, 0xA0, 0xBF, 1)
  else if lead = 0xED then some (0xD, 0x80, 0x9F, 1)
  else if lead < 0xF0 then some (lead.toNat - 0xE0, 0x80, 0xBF, 1)
  else if lead = 0xF0 then some (0, 0x90, 0xBF, 2)
  else if lead < 0xF4 then some (lead.toNat - 0xF0, 0x80, 0xBF, 2)
  else if lead = 0xF4 then some (4, 0x80, 0x8F, 2)
  else none

-- Reads `count` continuation bytes onto `value`; stops in front of the first byte that is none.
def continuation : Nat → Nat → Bytes → Char × Bytes
  | 0, value, rest => (Char.ofNat value, rest)
  | _ + 1, _, [] => (replacement, [])
  | count + 1, value, b :: rest =>
    if 0x80 ≤ b ∧ b ≤ 0xBF then continuation count (value * 64 + (b.toNat - 0x80)) rest
    else (replacement, b :: rest)

theorem continuation_length (count value : Nat) (bytes : Bytes) :
    (continuation count value bytes).2.length ≤ bytes.length := by
  induction bytes generalizing count value with
  | nil => cases count <;> simp [continuation]
  | cons b rest ih =>
      cases count with
      | zero => simp [continuation]
      | succ count =>
          simp only [continuation]
          split
          · exact Nat.le_succ_of_le (ih count _)
          · simp

def nextChar (lead : UInt8) (rest : Bytes) : Char × Bytes :=
  if lead < 0x80 then (Char.ofNat lead.toNat, rest)
  else
    match multibyteShape lead, rest with
    | some (value, low, high, count), b :: rest' =>
      if low ≤ b ∧ b ≤ high then continuation count (value * 64 + (b.toNat - 0x80)) rest'
      else (replacement, rest)
    | _, _ => (replacement, rest)

theorem nextChar_length (lead : UInt8) (rest : Bytes) :
    (nextChar lead rest).2.length ≤ rest.length := by
  unfold nextChar
  split
  · exact Nat.le_refl _
  · split
    · split
      · exact Nat.le_succ_of_le (continuation_length _ _ _)
      · exact Nat.le_refl _
    · exact Nat.le_refl _

def lossyChars : Bytes → List Char
  | [] => []
  | lead :: rest =>
    (nextChar lead rest).1 :: lossyChars (nextChar lead rest).2
  termination_by bytes => bytes.length
  decreasing_by exact Nat.lt_succ_of_le (nextChar_length lead rest)

def ofUtf8Lossy (bytes : Bytes) : String := String.ofList (lossyChars bytes)

end FirmwareTables.Text
