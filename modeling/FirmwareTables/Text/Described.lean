set_option autoImplicit false

namespace FirmwareTables.Text

def described (name : String) (parts : List String) : String :=
  name ++ " \x7b " ++ String.intercalate ", " parts ++ " \x7d"

end FirmwareTables.Text
