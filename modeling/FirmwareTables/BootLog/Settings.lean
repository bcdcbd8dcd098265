import FirmwareTables.BootLog.Filter
import FirmwareTables.Json.Record

set_option autoImplicit false

namespace FirmwareTables

structure LogSettings where
  path : Option String := none
  captureBuffer : Option Bool := none
  level : Option LevelFilter := none
  showLevel : Option Bool := none
  showOrigin : Option Bool := none
  module : Option String := none
  deriving DecidableEq, Repr

namespace LogSettings

open Json (Reader)

def readLevel : Reader LevelFilter := do
  match LevelFilter.ofName (← Reader.string) with
  | .ok filter => return filter
  | .error _ => throw .mismatch

def fields : List (Json.Field LogSettings) :=
  [{ name := "log_path", read := fun s => return { s with path := ← Reader.nullable Reader.string } },
    { name := "capture_buffer"
      read := fun s => return { s with captureBuffer := ← Reader.nullable Reader.bool } },
    { name := "level", read := fun s => return { s with level := ← Reader.nullable readLevel } },
    { name := "show_level"
      read := fun s => return { s with showLevel := ← Reader.nullable Reader.bool } },
    { name := "show_log_origin"
      read := fun s => return { s with showOrigin := ← Reader.nullable Reader.bool } },
    { name := "module"
      read := fun s => return { s with module := ← Reader.nullable Reader.string } }]

def ofDocument (text : String) : Except Json.Problem LogSettings :=
  Reader.document (Reader.record fields false {}) text

end LogSettings

end FirmwareTables
