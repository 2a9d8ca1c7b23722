/-!
# Kinds of input/output failure

A failure is known by its kind, which the statistics remember, and by a text for the log.
-/

namespace EndpointLifecycle

inductive ErrorKind
  | notFound
  | permissionDenied
  | connectionRefused
  | connectionReset
  | connectionAborted
  | hostUnreachable
  | networkUnreachable
  | networkDown
  | notConnected
  | addrInUse
  | addrNotAvailable
  | brokenPipe
  | alreadyExists
  | wouldBlock
  | invalidInput
  | invalidData
  | timedOut
  | writeZero
  | interrupted
  | unsupported
  | unexpectedEof
  | outOfMemory
  | other
  deriving DecidableEq

namespace ErrorKind

def all : List ErrorKind :=
  [notFound, permissionDenied, connectionRefused, connectionReset, connectionAborted,
    hostUnreachable, networkUnreachable, networkDown, notConnected, addrInUse, addrNotAvailable,
    brokenPipe, alreadyExists, wouldBlock, invalidInput, invalidData, timedOut, writeZero,
    interrupted, unsupported, unexpectedEof, outOfMemory, other]

def name : ErrorKind → String
  | notFound => "NotFound"
  | permissionDenied => "PermissionDenied"
  | connectionRefused => "ConnectionRefused"
  | connectionReset => "ConnectionReset"
  | connectionAborted => "ConnectionAborted"
  | hostUnreachable => "HostUnreachable"
  | networkUnreachable => "NetworkUnreachable"
  | networkDown => "NetworkDown"
  | notConnected => "NotConnected"
  | addrInUse => "AddrInUse"
  | addrNotAvailable => "AddrNotAvailable"
  | brokenPipe => "BrokenPipe"
  | alreadyExists => "AlreadyExists"
  | wouldBlock => "WouldBlock"
  | invalidInput => "InvalidInput"
  | invalidData => "InvalidData"
  | timedOut => "TimedOut"
  | writeZero => "WriteZero"
  | interrupted => "Interrupted"
  | unsupported => "Unsupported"
  | unexpectedEof => "UnexpectedEof"
  | outOfMemory => "OutOfMemory"
  | other => "Other"

def ofName? (s : String) : Option ErrorKind := all.find? (·.name == s)

theorem mem_all (k : ErrorKind) : k ∈ all := by cases k <;> decide

theorem ofName?_name (k : ErrorKind) : ofName? k.name = some k := by cases k <;> rfl

end ErrorKind

structure IoError where
  kind : ErrorKind
  message : String
  deriving DecidableEq

end EndpointLifecycle
