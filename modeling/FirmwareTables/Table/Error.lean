import FirmwareTables.Aml.Path
import FirmwareTables.Text.Quoted

set_option autoImplicit false

namespace FirmwareTables

inductive TableError where
  | tooShort (expected actual : Nat)
  | lengthMismatch (declared actual : Nat)
  | unexpectedSignature (found : FixedBytes 4)
  | malformedStructure (offset : Nat)
  | tooLarge
  | aml (cause : Aml.PathError)
  deriving DecidableEq

def TableError.message : TableError → String
  | .tooShort expected actual =>
    s!"Table is too short: got {actual} bytes, expected at least {expected}"
  | .lengthMismatch declared actual =>
    s!"Declared table length {declared} does not fit in a buffer of {actual} bytes"
  | .unexpectedSignature found =>
    "Unexpected table signature: " ++ Text.bracketed (found.bytes.map (·.toNat))
  | .malformedStructure offset => "Malformed sub-structure at offset " ++ Text.prefixedHex offset
  | .tooLarge => "Table does not fit in a 32-bit length field"
  | .aml cause => "Error creating AML bytecode: " ++ cause.message

end FirmwareTables
