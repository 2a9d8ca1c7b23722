import EndpointLifecycle.Address.Interface
import EndpointLifecycle.Hostname

/-!
# Addresses to connect to

`interface;host:port`, where the interface and its semicolon may be left out. The interface ends at
the first semicolon of all, the host at the last colon of the rest, so that the colons of an IPv6
literal are in nobody's way. Faults of port and host are reported before one of the interface.
-/

namespace EndpointLifecycle

structure ConnectAddress where
  localInterface : Option Interface
  host : String
  port : UInt16
  deriving DecidableEq

namespace ConnectAddress

/-- A host is an admitted literal or a host name, in brackets or not. -/
def readHost (ipv4Only : Bool) (segment : List Char) : Except AddressFault String :=
  let host := Address.stripBrackets segment
  match IpAddr.read host with
  | some ip => if ip.Admitted ipv4Only then .ok (String.ofList host) else .error .ipv6Host
  | none =>
    if Hostname.isValid (String.ofList host) then .ok (String.ofList host) else .error .invalidHost

/-- The host and the port, which is not zero. -/
def readTarget (ipv4Only : Bool) (target : List Char) : Except AddressFault (String × UInt16) :=
  match Text.splitLast ':' target with
  | none => .error .missingPort
  | some (host, port) =>
    match Address.port? port with
    | none => .error .invalidPort
    | some port =>
      if port = 0 then .error .portZero else (readHost ipv4Only host).map fun host => (host, port)

/-- The interface segment, if there is one, and the rest. -/
def splitLocal (cs : List Char) : Option (List Char) × List Char :=
  match Text.splitFirst ';' cs with
  | none => (none, cs)
  | some (segment, target) => (some segment, target)

def parse (address : String) (ipv4Only : Bool) : Except ConfigError ConnectAddress :=
  let (segment, target) := splitLocal address.toList
  match readTarget ipv4Only target with
  | .error fault => .error (.invalidAddress address fault)
  | .ok (host, port) =>
    match segment with
    | none => .ok ⟨none, host, port⟩
    | some segment =>
      (Interface.read ipv4Only segment).map fun interface => ⟨some interface, host, port⟩

def remoteAddr (c : ConnectAddress) (resolved : IpAddr) : SocketAddr :=
  { ip := resolved, port := c.port }

/-- The local end for a remote address. Unless a literal is given, it is of the remote's family. -/
def localAddr (c : ConnectAddress) (remote : IpAddr) : SocketAddr :=
  match c.localInterface with
  | some (.literal ip) => { ip, port := 0 }
  | _ => { ip := remote.family.unspecified, port := 0 }

end ConnectAddress

end EndpointLifecycle
