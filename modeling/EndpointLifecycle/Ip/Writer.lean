import EndpointLifecycle.Ip.Basic
import EndpointLifecycle.Text.Fields
import EndpointLifecycle.Text.Numeral

/-!
# Writing addresses

IPv6 groups are in lower-case hexadecimal without leading zeros. The longest run of two or more
zero groups, the first of several, is left out. An IPv4 address that is mapped into IPv6 keeps its
points.
-/

namespace EndpointLifecycle

open Text

namespace Ipv4

def write (ip : Ipv4) : List Char :=
  joined '.' ([ip.a, ip.b, ip.c, ip.d].map fun o => digits 10 o.toNat)

end Ipv4

namespace Ipv6

def writeGroups (gs : List UInt16) : List Char := joined ':' (gs.map fun g => digits 16 g.toNat)

/-- Number of zeros at the start. -/
def zeroRun (gs : List UInt16) : Nat := (gs.takeWhile (· == 0)).length

/-- Start and length of the longest run of zeros, the first of several. -/
def longestRun : List UInt16 → Nat × Nat
  | [] => (0, 0)
  | g :: gs =>
    let (start, length) := longestRun gs
    if length ≤ zeroRun (g :: gs) then (0, zeroRun (g :: gs)) else (start + 1, length)

def write (ip : Ipv6) : List Char :=
  match ip.groups with
  | [0, 0, 0, 0, 0, 0xffff, high, low] => "::ffff:".toList ++ (Ipv4.ofGroups high low).write
  | gs =>
    let (start, length) := longestRun gs
    if 2 ≤ length then
      writeGroups (gs.take start) ++ [':', ':'] ++ writeGroups (gs.drop (start + length))
    else writeGroups gs

end Ipv6

namespace IpAddr

def write : IpAddr → List Char
  | v4 ip => ip.write
  | v6 ip => ip.write

def text (ip : IpAddr) : String := String.ofList ip.write

end IpAddr

namespace SocketAddr

def write (addr : SocketAddr) : List Char :=
  (match addr.ip with
    | .v4 ip => ip.write
    | .v6 ip =>
      '[' :: ip.write ++ (if addr.scope = 0 then [] else '%' :: digits 10 addr.scope.toNat) ++
        [']']) ++ ':' :: digits 10 addr.port.toNat

def text (addr : SocketAddr) : String := String.ofList addr.write

end SocketAddr

end EndpointLifecycle
