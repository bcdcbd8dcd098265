import FirmwareTables.Action
import FirmwareTables.BootLog.Settings

set_option autoImplicit false

namespace FirmwareTables

structure LogRecord where
  level : Level
  message : String
  module : Option String := none
  file : Option String := none
  line : Option Nat := none
  deriving DecidableEq, Repr

structure Volume where
  files : List (String × String) := []
  deriving DecidableEq, Repr

namespace Volume

def longestPath : Nat := 4095

def longestName : Nat := 255

def isFileName (name : String) : Bool :=
  name ≠ "" && name ≠ "." && name ≠ ".." && name.utf8ByteSize ≤ longestName &&
    !name.toList.contains '\x00'

def staysHere (step : String) : Bool := step = "" || step = "."

-- There are no directories to go into.
def fileName? (path : String) : Option String :=
  match (path.splitOn "/").reverse with
  | name :: above =>
    if path.utf8ByteSize ≤ longestPath && isFileName name && above.getLast? ≠ some "" &&
        above.all staysHere then
      some name
    else none
  | [] => none

def content? (volume : Volume) (name : String) : Option String := volume.files.lookup name

def read? (volume : Volume) (path : String) : Option String := (fileName? path).bind volume.content?

def create (volume : Volume) (name : String) : Volume :=
  match volume.content? name with
  | some _ => volume
  | none => { files := volume.files ++ [(name, "")] }

def append (volume : Volume) (name text : String) : Volume where
  files := volume.files.map fun (other, content) =>
    if other = name then (other, content ++ text) else (other, content)

end Volume

inductive Sink where
  | console
  | file (name : String)
  | fullDevice
  | buffer (lines : List String)
  deriving DecidableEq, Repr

structure BootLog where
  sink : Sink := .console
  level : LevelFilter := .upTo .info
  module : Option String := none
  showLevel : Bool := false
  showOrigin : Bool := false
  -- It counts calls of one run, so a machine word would not come round to zero.
  dropped : Nat := 0
  volume : Volume := {}
  console : List String := []
  deriving DecidableEq, Repr

inductive LogError where
  | cannotOpen
  | conflictingTargets
  deriving DecidableEq, Repr

def LogError.message : LogError → Option String
  | .cannotOpen => none
  | .conflictingTargets =>
    some "A log file and the in-memory buffer cannot both be the log target"

namespace BootLog

def tag : String := "platform-init"

def bufferCapacity : Nat := 64 * 1024

def fullDevicePath : String := "/dev/full"

def bufferSize (lines : List String) : Nat := lines.foldl (fun size line => size + line.utf8ByteSize) 0

-- Records without a module pass only where no module is asked for.
def admitsModule (log : BootLog) (module : Option String) : Bool :=
  match log.module, module with
  | none, _ => true
  | some _, none => false
  | some wanted, some name => wanted.toList.isPrefixOf name.toList

def accepts (log : BootLog) (record : LogRecord) : Bool :=
  log.level.admits record.level && log.admitsModule record.module

def origin (record : LogRecord) : String :=
  ":" ++ record.file.getD "?" ++ ":" ++ (record.line.map toString).getD "?"

def render (log : BootLog) (record : LogRecord) : String :=
  "[" ++ tag ++ (if log.showLevel then ":" ++ record.level.label else "") ++
    (if log.showOrigin then origin record else "") ++ "] " ++ record.message ++ "\n"

-- Hands a line to the sink. The buffer keeps its lines newest first.
def write (log : BootLog) (line : String) : BootLog :=
  match log.sink with
  | .console => { log with console := line :: log.console }
  | .file name => { log with volume := log.volume.append name line }
  | .fullDevice => { log with dropped := log.dropped + 1 }
  | .buffer lines =>
    if bufferSize lines + line.utf8ByteSize ≤ bufferCapacity then
      { log with sink := .buffer (line :: lines) }
    else { log with dropped := log.dropped + 1 }

def log (log : BootLog) (record : LogRecord) : BootLog :=
  if log.accepts record then log.write (log.render record) else log

def flush (log : BootLog) : BootLog := log

def takeBuffer (log : BootLog) : String × BootLog :=
  match log.sink with
  | .buffer lines => (String.join lines.reverse, { log with sink := .buffer [] })
  | _ => ("", log)

def takeConsole (log : BootLog) : String × BootLog :=
  (String.join log.console.reverse, { log with console := [] })

def openFile (log : BootLog) (path : String) : Except LogError BootLog :=
  if path = fullDevicePath then .ok { log with sink := .fullDevice }
  else match Volume.fileName? path with
    | some name => .ok { log with sink := .file name, volume := log.volume.create name }
    | none => .error .cannotOpen

def retarget (log : BootLog) (settings : LogSettings) : Except LogError BootLog :=
  match settings.path, settings.captureBuffer with
  | some _, some true => .error .conflictingTargets
  | some path, _ => log.openFile path
  | none, some true => .ok { log with sink := .buffer [] }
  | none, some false => .ok { log with sink := .console }
  | none, none => .ok log

def configure (log : BootLog) (settings : LogSettings) : Except LogError BootLog := do
  let log ← log.retarget settings
  return { log with
    level := settings.level.getD log.level
    showLevel := settings.showLevel.getD log.showLevel
    showOrigin := settings.showOrigin.getD log.showOrigin
    module := settings.module <|> log.module }

-- Where the log is held. A target that is refused is refused before the first write.
def reconfigure (settings : LogSettings) : Action BootLog LogError Unit := do
  let log ← Action.get
  let retargeted ← Action.ofExcept (log.retarget settings)
  Action.modify fun log => { log with sink := retargeted.sink, volume := retargeted.volume }
  Action.modify fun log => { log with level := settings.level.getD log.level }
  Action.modify fun log => { log with showLevel := settings.showLevel.getD log.showLevel }
  Action.modify fun log => { log with showOrigin := settings.showOrigin.getD log.showOrigin }
  Action.modify fun log => { log with module := settings.module <|> log.module }

end BootLog

end FirmwareTables
