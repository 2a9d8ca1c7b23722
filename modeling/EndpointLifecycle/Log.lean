/-!
# Log entries

An entry has a level, a fixed message and named texts in a fixed order.
-/

namespace EndpointLifecycle.Log

inductive Level
  | error
  | warn
  | info
  | debug
  | trace
  deriving DecidableEq

def Level.name : Level → String
  | error => "ERROR"
  | warn => "WARN"
  | info => "INFO"
  | debug => "DEBUG"
  | trace => "TRACE"

structure Entry where
  level : Level
  message : String
  fields : List (String × String)
  deriving DecidableEq

end EndpointLifecycle.Log
