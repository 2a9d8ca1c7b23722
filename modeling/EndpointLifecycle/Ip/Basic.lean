/-!
# Internet addresses

An IPv4 address has four octets, an IPv6 address eight groups of sixteen bits.
-/

namespace EndpointLifecycle

structure Ipv4 where
  a : UInt8
  b : UInt8
  c : UInt8
  d : UInt8
  deriving DecidableEq

structure Ipv6 where
  groups : List UInt16
  length_groups : groups.length = 8
  deriving DecidableEq

inductive IpAddr
  | v4 (ip : Ipv4)
  | v6 (ip : Ipv6)
  deriving DecidableEq

inductive Family
  | ipv4
  | ipv6
  deriving DecidableEq

namespace Ipv4

def unspecified : Ipv4 := ⟨0, 0, 0, 0⟩

/-- The four octets as two groups of an IPv6 address. -/
def groups (ip : Ipv4) : List UInt16 :=
  [ip.a.toUInt16 * 256 + ip.b.toUInt16, ip.c.toUInt16 * 256 + ip.d.toUInt16]

def ofGroups (high low : UInt16) : Ipv4 :=
  ⟨(high / 256).toUInt8, high.toUInt8, (low / 256).toUInt8, low.toUInt8⟩

end Ipv4

namespace Ipv6

def unspecified : Ipv6 := ⟨List.replicate 8 0, List.length_replicate⟩

end Ipv6

def IpAddr.family : IpAddr → Family
  | .v4 _ => .ipv4
  | .v6 _ => .ipv6

namespace Family

/-- The address that stands for every local address of the family. -/
def unspecified : Family → IpAddr
  | ipv4 => .v4 .unspecified
  | ipv6 => .v6 .unspecified

def name : Family → String
  | ipv4 => "Ipv4"
  | ipv6 => "Ipv6"

def ofName? : String → Option Family
  | "Ipv4" => some ipv4
  | "Ipv6" => some ipv6
  | _ => none

@[simp] theorem family_unspecified (f : Family) : f.unspecified.family = f := by
  cases f <;> rfl

end Family

/-- An address and a port. An IPv6 address may belong to a numbered scope; zero is no scope. -/
structure SocketAddr where
  ip : IpAddr
  port : UInt16
  scope : UInt32 := 0
  deriving DecidableEq

end EndpointLifecycle
