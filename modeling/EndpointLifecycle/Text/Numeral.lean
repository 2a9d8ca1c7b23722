/-!
# Numbers written in digits
-/

namespace EndpointLifecycle.Text

/-- The value of an ASCII digit or letter of either case, where it is a digit of the base. -/
def digit? (base : Nat) (c : Char) : Option Nat :=
  let value :=
    if '0' ≤ c ∧ c ≤ '9' then some (c.toNat - '0'.toNat)
    else if 'a' ≤ c ∧ c ≤ 'f' then some (c.toNat - 'a'.toNat + 10)
    else if 'A' ≤ c ∧ c ≤ 'F' then some (c.toNat - 'A'.toNat + 10)
    else none
  value.filter (· < base)

/-- A number of one to `limit` digits. -/
def numeral? (base limit : Nat) (cs : List Char) : Option Nat :=
  if cs = [] ∨ limit < cs.length then none
  else (cs.mapM (digit? base)).map fun ds => ds.foldl (fun n d => base * n + d) 0

/-- The digits of a number, without leading zeros and in lower case. -/
def digits (base n : Nat) : List Char := Nat.toDigits base n

end EndpointLifecycle.Text
