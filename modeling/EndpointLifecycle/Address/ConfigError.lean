/-!
# Faults of an address

The only errors that an endpoint returns to its owner: they are found before anything has started.
-/

namespace EndpointLifecycle

/-- What is wrong with the port or the host of an address. -/
inductive AddressFault
  | missingPort
  | invalidPort
  | portZero
  | ipv6Host
  | invalidHost
  deriving DecidableEq

def AddressFault.reason : AddressFault → String
  | missingPort => "missing port"
  | invalidPort => "port is not valid"
  | portZero => "cannot connect to port 0"
  | ipv6Host => "IPv6 literal is not allowed with ipv4-only"
  | invalidHost => "host is neither a literal nor a valid hostname"

inductive ConfigError
  | invalidAddress (address : String) (fault : AddressFault)
  | noSuchInterface (segment : String)
  deriving DecidableEq

namespace ConfigError

/-- Stays the same whatever the address was, for sorting logs. -/
def code : ConfigError → String
  | invalidAddress .. => "spark.endpoint.invalid_address"
  | noSuchInterface _ => "spark.endpoint.no_such_interface"

def message : ConfigError → String
  | invalidAddress address fault =>
    "invalid endpoint address `" ++ address ++ "`: " ++ fault.reason
  | noSuchInterface segment => "no such interface `" ++ segment ++ "`"

end ConfigError

end EndpointLifecycle
