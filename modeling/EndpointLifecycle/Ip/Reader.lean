import EndpointLifecycle.Ip.Basic
import EndpointLifecycle.Text.Fields
import EndpointLifecycle.Text.Numeral

/-!
# Reading address literals

An IPv4 literal is four decimal octets between points, without leading zeros. An IPv6 literal is
eight groups of one to four hexadecimal digits between colons, of which one run of at least one
group may be left out between two colons; the last two groups may be written as an IPv4 literal.
Only a socket address may number a scope behind its IPv6 literal.
-/

namespace EndpointLifecycle

open Text

namespace Ipv4

def octet? (cs : List Char) : Option UInt8 :=
  if cs.head? = some '0' ∧ cs ≠ ['0'] then none
  else ((numeral? 10 3 cs).filter (· < 256)).map UInt8.ofNat

def read (cs : List Char) : Option Ipv4 :=
  match (fields '.' cs).mapM octet? with
  | some [a, b, c, d] => some ⟨a, b, c, d⟩
  | _ => none

end Ipv4

namespace Ipv6

def group? (cs : List Char) : Option UInt16 := (numeral? 16 4 cs).map UInt16.ofNat

/-- The groups of a list of parts, the last of which may be an IPv4 literal. -/
def groups? : List (List Char) → Option (List UInt16)
  | [] => some []
  | [f] => (Ipv4.read f).map Ipv4.groups <|> (group? f).map fun g => [g]
  | f :: fs =>
    match group? f, groups? fs with
    | some g, some gs => some (g :: gs)
    | _, _ => none

/-- The text before and after the first two colons that follow each other. -/
def splitGap : List Char → Option (List Char × List Char)
  | ':' :: ':' :: cs => some ([], cs)
  | c :: cs => (splitGap cs).map fun (a, b) => (c :: a, b)
  | [] => none

/-- The parts between colons; nothing at all has no parts. -/
def parts (cs : List Char) : List (List Char) := if cs = [] then [] else fields ':' cs

def ofGroups? (gs : List UInt16) : Option Ipv6 :=
  if h : gs.length = 8 then some ⟨gs, h⟩ else none

def read (cs : List Char) : Option Ipv6 :=
  match splitGap cs with
  | none => groups? (parts cs) >>= ofGroups?
  | some (before, after) =>
    match (parts before).mapM group?, groups? (parts after) with
    | some front, some back =>
      if front.length + back.length < 8 then
        ofGroups? (front ++ List.replicate (8 - (front.length + back.length)) 0 ++ back)
      else none
    | _, _ => none

end Ipv6

namespace IpAddr

def read (cs : List Char) : Option IpAddr :=
  (Ipv4.read cs).map v4 <|> (Ipv6.read cs).map v6

def ofString? (s : String) : Option IpAddr := read s.toList

end IpAddr

namespace SocketAddr

/-- A number below a bound, with any number of leading zeros. -/
def numberBelow? (bound : Nat) (cs : List Char) : Option Nat :=
  (numeral? 10 cs.length cs).filter (· < bound)

/-- An IPv6 literal and the number of its scope, which may follow it after a percent sign. -/
def scoped? (cs : List Char) : Option (Ipv6 × UInt32) :=
  match splitFirst '%' cs with
  | none => (Ipv6.read cs).map fun ip => (ip, 0)
  | some (literal, scope) => do
    pure (← Ipv6.read literal, UInt32.ofNat (← numberBelow? UInt32.size scope))

/-- An address and a port, with the brackets that an IPv6 address needs. -/
def ofString? (s : String) : Option SocketAddr := do
  let (host, port) ← splitLast ':' s.toList
  let port := UInt16.ofNat (← numberBelow? UInt16.size port)
  match host with
  | '[' :: inner =>
    if inner.getLast? = some ']' then
      let (ip, scope) ← scoped? inner.dropLast
      pure ⟨.v6 ip, port, scope⟩
    else none
  | _ => pure ⟨.v4 (← Ipv4.read host), port, 0⟩

end SocketAddr

end EndpointLifecycle
