/-!
# Host names

A name of at most 255 bytes: labels of one to 63 letters, digits and hyphens, between points, none
of which starts with a hyphen. One point may follow the last label.
-/

namespace EndpointLifecycle.Hostname

def maxBytes : Nat := 255

def maxLabel : Nat := 63

def isLetterOrDigit (c : Char) : Bool :=
  ('a' ≤ c && c ≤ 'z') || ('A' ≤ c && c ≤ 'Z') || ('0' ≤ c && c ≤ '9')

/-- Reads on with `length` characters of the current label behind it. -/
def scan (length : Nat) : List Char → Bool
  | [] => true
  | c :: cs =>
    if c = '.' then length != 0 && scan 0 cs
    else if c = '-' ∧ length = 0 then false
    else if isLetterOrDigit c ∨ c = '-' then length < maxLabel && scan (length + 1) cs
    else false

def isValid (name : String) : Bool :=
  !name.isEmpty && name.utf8ByteSize ≤ maxBytes && scan 0 name.toList

end EndpointLifecycle.Hostname
