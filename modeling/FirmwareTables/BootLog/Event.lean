set_option autoImplicit false

namespace FirmwareTables

inductive Level where
  | error
  | warn
  | info
  | debug
  | trace
  deriving DecidableEq, Repr

-- Severity grows downwards: a filter lets everything up to its own number pass.
def Level.verbosity : Level → Nat
  | .error => 1
  | .warn => 2
  | .info => 3
  | .debug => 4
  | .trace => 5

def Level.label : Level → String
  | .error => "ERROR"
  | .warn => "WARN"
  | .info => "INFO"
  | .debug => "DEBUG"
  | .trace => "TRACE"

inductive Component where
  | boot
  | topology
  | collation
  | interruptTable
  | processorDevices
  | definitionBlocks
  | soc
  | slots
  deriving DecidableEq, Repr

structure Event where
  level : Level
  component : Component
  message : String
  deriving DecidableEq, Repr

end FirmwareTables
