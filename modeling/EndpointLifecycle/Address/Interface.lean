import EndpointLifecycle.Address.ConfigError
import EndpointLifecycle.Ip.Reader

/-!
# Local interfaces

An address names the local end as `*` or as an address literal, which may stand in square brackets.
Names of network devices are not accepted.
-/

namespace EndpointLifecycle

namespace Address

/-- Takes away one opening and one closing bracket, if both are there. -/
def stripBrackets : List Char → List Char
  | '[' :: cs => if cs.getLast? = some ']' then cs.dropLast else '[' :: cs
  | cs => cs

/-- One to five digits, at most 65535. -/
def port? (cs : List Char) : Option UInt16 :=
  ((Text.numeral? 10 5 cs).filter (· < 65536)).map UInt16.ofNat

end Address

/-- Whether an endpoint may use the address. -/
def IpAddr.Admitted (ipv4Only : Bool) (ip : IpAddr) : Prop := ipv4Only = true → ip.family = .ipv4

instance (ipv4Only : Bool) (ip : IpAddr) : Decidable (ip.Admitted ipv4Only) :=
  inferInstanceAs (Decidable (ipv4Only = true → ip.family = .ipv4))

inductive Interface
  | any
  | literal (ip : IpAddr)
  deriving DecidableEq

namespace Interface

def read (ipv4Only : Bool) (segment : List Char) : Except ConfigError Interface :=
  if segment = ['*'] then .ok any
  else
    match IpAddr.read (Address.stripBrackets segment) with
    | some ip =>
      if ip.Admitted ipv4Only then .ok (literal ip)
      else .error (.noSuchInterface (String.ofList segment))
    | none => .error (.noSuchInterface (String.ofList segment))

def parse (segment : String) (ipv4Only : Bool) : Except ConfigError Interface :=
  read ipv4Only segment.toList

/-- The address to listen at; without the restriction to IPv4, `*` takes both families. -/
def resolve (ipv4Only : Bool) : Interface → IpAddr
  | any => (if ipv4Only then Family.ipv4 else Family.ipv6).unspecified
  | literal ip => ip

end Interface

end EndpointLifecycle
