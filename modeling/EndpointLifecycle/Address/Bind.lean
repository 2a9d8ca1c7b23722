import EndpointLifecycle.Address.Interface

/-!
# Addresses to listen at

`interface:port`, cut at the last colon.
-/

namespace EndpointLifecycle

structure BindAddress where
  interface : Interface
  port : UInt16
  deriving DecidableEq

namespace BindAddress

def parse (address : String) (ipv4Only : Bool) : Except ConfigError BindAddress :=
  match Text.splitLast ':' address.toList with
  | none => .error (.invalidAddress address .missingPort)
  | some (segment, port) =>
    match Address.port? port with
    | none => .error (.invalidAddress address .invalidPort)
    | some port => (Interface.read ipv4Only segment).map fun interface => ⟨interface, port⟩

def socketAddr (b : BindAddress) (ipv4Only : Bool) : SocketAddr :=
  { ip := b.interface.resolve ipv4Only, port := b.port }

end BindAddress

end EndpointLifecycle
