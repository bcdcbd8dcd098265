set_option autoImplicit false

namespace FirmwareTables

inductive ServiceError where
  | notFound
  | outOfResources
  | invalidParameter
  | unsupported
  deriving DecidableEq, Repr

def ServiceError.message : ServiceError → String
  | .notFound => "Required platform data source is not available"
  | .outOfResources => "Out of resources"
  | .invalidParameter => "Invalid parameter"
  | .unsupported => "Operation is not supported by the platform"

end FirmwareTables
