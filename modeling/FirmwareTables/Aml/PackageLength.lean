import FirmwareTables.Bytes

set_option autoImplicit false

namespace FirmwareTables.Aml

-- A length counts its own bytes, hence the sums.
def packageLengthSize (body : Nat) : Nat :=
  if body + 1 < 0x40 then 1
  else if body + 2 < 0x1000 then 2
  else if body + 3 < 0x100000 then 3
  else 4

def packageLength (body : Nat) : Bytes :=
  let size := packageLengthSize body
  let length := body + size
  if size = 1 then [UInt8.ofNat length]
  else
    UInt8.ofNat (64 * (size - 1) + length % 16) :: Bytes.littleEndian (size - 1) (length / 16)

def package (operator body : Bytes) : Bytes :=
  operator ++ packageLength body.length ++ body

theorem packageLengthSize_bounds (body : Nat) :
    1 ≤ packageLengthSize body ∧ packageLengthSize body ≤ 4 := by
  unfold packageLengthSize
  split
  · decide
  · split
    · decide
    · split <;> decide

theorem length_packageLength (body : Nat) :
    (packageLength body).length = packageLengthSize body := by
  unfold packageLength packageLengthSize
  split
  · simp
  · split
    · simp
    · split <;> simp

end FirmwareTables.Aml
