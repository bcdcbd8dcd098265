import FirmwareTables.Processor.Collation
import FirmwareTables.Table.Error

set_option autoImplicit false

namespace FirmwareTables

inductive AcpiError where
  | table (cause : TableError)
  | aml (cause : Aml.PathError)
  | collation (cause : CollationError)
  | service (cause : ServiceError)
  | notInstalled (signature oemTableId : String)
  deriving DecidableEq

namespace AcpiError

def message : AcpiError → String
  | .table cause => "ACPI tables error: " ++ cause.message
  | .aml cause => "Error creating AML bytecode: " ++ cause.message
  | .collation cause => "Cannot order the processors: " ++ cause.message
  | .service cause => "Platform service failure: " ++ cause.message
  | .notInstalled signature oemTableId =>
    "No installed " ++ signature ++ " table with OEM table id " ++ oemTableId

def toServiceError : AcpiError → ServiceError
  | .table _ => .invalidParameter
  | .aml _ => .invalidParameter
  | .collation cause => cause.toServiceError
  | .service cause => cause
  | .notInstalled .. => .notFound

end AcpiError

end FirmwareTables
