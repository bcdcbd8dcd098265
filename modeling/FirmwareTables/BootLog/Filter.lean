import FirmwareTables.BootLog.Event
import FirmwareTables.Text.Quoted

set_option autoImplicit false

namespace FirmwareTables

inductive LevelFilter where
  | off
  | upTo (level : Level)
  deriving DecidableEq, Repr

structure UnknownLevel where
  name : String
  deriving DecidableEq, Repr

def UnknownLevel.message (e : UnknownLevel) : String := "Unknown log level: " ++ Text.quoted e.name

namespace LevelFilter

def label : LevelFilter → String
  | .off => "OFF"
  | .upTo level => level.label

def admits (filter : LevelFilter) (level : Level) : Bool :=
  match filter with
  | .off => false
  | .upTo limit => level.verbosity ≤ limit.verbosity

def names : List (String × LevelFilter) :=
  [("off", .off), ("trace", .upTo .trace), ("debug", .upTo .debug), ("info", .upTo .info),
    ("warn", .upTo .warn), ("warning", .upTo .warn), ("error", .upTo .error)]

def ofName (name : String) : Except UnknownLevel LevelFilter :=
  match names.lookup (String.ofList (name.toList.map Char.toLower)) with
  | some filter => .ok filter
  | none => .error ⟨name⟩

end LevelFilter

end FirmwareTables
