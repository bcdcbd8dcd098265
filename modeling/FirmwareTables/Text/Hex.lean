set_option autoImplicit false

namespace FirmwareTables.Text

def hex (n : Nat) : String := String.ofList (Nat.toDigits 16 n)

def prefixedHex (n : Nat) : String := "0x" ++ hex n

def upperHex (width n : Nat) : String :=
  let digits := (Nat.toDigits 16 n).map Char.toUpper
  String.ofList (List.replicate (width - digits.length) '0' ++ digits)

end FirmwareTables.Text
