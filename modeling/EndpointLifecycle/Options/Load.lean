import EndpointLifecycle.Options.Basic
import EndpointLifecycle.Decimal.Shortest
import EndpointLifecycle.Text.Quoted

/-!
# Loading options

Options are loaded from named values in the order of a file. A field that is not named keeps its
default. A name that is unknown or that comes for the second time is refused before its value is
looked at, and loading ends at the first fault.
-/

namespace EndpointLifecycle.Options

/-- A value as it stands in a file. A number that is not written as a whole number, or is too large
for 64 bits, is given by the bits of a binary64. -/
inductive Value
  | null
  | bool (b : Bool)
  | int (n : Int)
  | float (bits : UInt64)
  | string (s : String)
  | sequence
  | map
  deriving DecidableEq

inductive Field
  | ipv4Only
  | reconnectMillis
  | reconnectMaxMillis
  | sendBuffer
  | recvBuffer
  | backlog
  deriving DecidableEq

/-- What a field holds. Sizes in memory have 64 bits. -/
inductive Kind
  | boolean
  | word64
  | size
  | word32
  deriving DecidableEq

inductive LoadError
  | unknownField (key : String)
  | duplicateField (field : Field)
  | invalidType (found : Value) (expected : Kind)
  | invalidValue (found : Int) (expected : Kind)
  deriving DecidableEq

/-- Numbers from 0.00001 up to, but not including, 10 ^ 16 have no exponent, and every exponent
has a sign. -/
def numberFormat : Decimal.Format := ⟨-5, 16, true⟩

namespace Value

def text : Value → String
  | null => "null"
  | bool b => "boolean `" ++ toString b ++ "`"
  | int n => "integer `" ++ toString n ++ "`"
  | float bits => "floating point `" ++ Decimal.text numberFormat bits ++ "`"
  | string s => "string " ++ Text.quoted s
  | sequence => "sequence"
  | map => "map"

end Value

namespace Field

def all : List Field :=
  [ipv4Only, reconnectMillis, reconnectMaxMillis, sendBuffer, recvBuffer, backlog]

def name : Field → String
  | ipv4Only => "ipv4_only"
  | reconnectMillis => "reconnect_ivl_ms"
  | reconnectMaxMillis => "reconnect_ivl_max_ms"
  | sendBuffer => "sndbuf"
  | recvBuffer => "rcvbuf"
  | backlog => "backlog"

def ofName? (s : String) : Option Field := all.find? (·.name == s)

end Field

namespace Kind

def name : Kind → String
  | boolean => "a boolean"
  | word64 => "u64"
  | size => "usize"
  | word32 => "u32"

end Kind

namespace LoadError

def message : LoadError → String
  | unknownField key =>
    "unknown field `" ++ key ++ "`, expected one of " ++
      String.intercalate ", " (Field.all.map fun f => "`" ++ f.name ++ "`")
  | duplicateField field => "duplicate field `" ++ field.name ++ "`"
  | invalidType found expected =>
    "invalid type: " ++ found.text ++ ", expected " ++ expected.name
  | invalidValue found expected =>
    "invalid value: integer `" ++ toString found ++ "`, expected " ++ expected.name

end LoadError

namespace Value

def toBool : Value → Except LoadError Bool
  | bool b => .ok b
  | v => .error (.invalidType v .boolean)

/-- A whole number below the bound. -/
def toNat (kind : Kind) (bound : Nat) : Value → Except LoadError Nat
  | int n =>
    if 0 ≤ n ∧ n.toNat < bound then .ok n.toNat else .error (.invalidValue n kind)
  | v => .error (.invalidType v kind)

end Value

/-- The fields that have been read. -/
structure Overlay where
  ipv4Only : Option Bool := none
  reconnectMillis : Option UInt64 := none
  reconnectMaxMillis : Option UInt64 := none
  sendBuffer : Option UInt64 := none
  recvBuffer : Option UInt64 := none
  backlog : Option UInt32 := none
  deriving DecidableEq

namespace Overlay

def has (o : Overlay) : Field → Bool
  | .ipv4Only => o.ipv4Only.isSome
  | .reconnectMillis => o.reconnectMillis.isSome
  | .reconnectMaxMillis => o.reconnectMaxMillis.isSome
  | .sendBuffer => o.sendBuffer.isSome
  | .recvBuffer => o.recvBuffer.isSome
  | .backlog => o.backlog.isSome

def set (o : Overlay) (v : Value) : Field → Except LoadError Overlay
  | .ipv4Only => v.toBool.map fun b => { o with ipv4Only := some b }
  | .reconnectMillis =>
    (v.toNat .word64 UInt64.size).map fun n => { o with reconnectMillis := some (.ofNat n) }
  | .reconnectMaxMillis =>
    (v.toNat .word64 UInt64.size).map fun n => { o with reconnectMaxMillis := some (.ofNat n) }
  | .sendBuffer => (v.toNat .size UInt64.size).map fun n => { o with sendBuffer := some (.ofNat n) }
  | .recvBuffer => (v.toNat .size UInt64.size).map fun n => { o with recvBuffer := some (.ofNat n) }
  | .backlog => (v.toNat .word32 UInt32.size).map fun n => { o with backlog := some (.ofNat n) }

def add (o : Overlay) (key : String) (v : Value) : Except LoadError Overlay :=
  match Field.ofName? key with
  | none => .error (.unknownField key)
  | some field => if o.has field then .error (.duplicateField field) else o.set v field

/-- The options with the fields of the overlay in place of the defaults. -/
def toOptions (o : Overlay) : Options :=
  let d : Options := {}
  { ipv4Only := o.ipv4Only.getD d.ipv4Only
    reconnectMillis := o.reconnectMillis.getD d.reconnectMillis
    reconnectMaxMillis := o.reconnectMaxMillis.getD d.reconnectMaxMillis
    sendBuffer := o.sendBuffer.getD d.sendBuffer
    recvBuffer := o.recvBuffer.getD d.recvBuffer
    backlog := o.backlog.getD d.backlog }

def addAll (o : Overlay) : List (String × Value) → Except LoadError Overlay
  | [] => .ok o
  | (key, v) :: rest =>
    match o.add key v with
    | .ok o => addAll o rest
    | .error e => .error e

end Overlay

def load (entries : List (String × Value)) : Except LoadError Options :=
  (Overlay.addAll {} entries).map Overlay.toOptions

end EndpointLifecycle.Options
