import EndpointLifecycle.Text.Numeral
import EndpointLifecycle.Text.Shown

/-!
# Quoted texts

A text in double quotes on one line: quotes, backslashes and the usual control characters have an
escape of two characters, and every other character that does not show is given by its number.
-/

namespace EndpointLifecycle.Text

def escaped (c : Char) : List Char :=
  if c = '\x00' then ['\\', '0']
  else if c = '\t' then ['\\', 't']
  else if c = '\r' then ['\\', 'r']
  else if c = '\n' then ['\\', 'n']
  else if c = '"' ∨ c = '\\' then ['\\', c]
  else if isShown c then [c]
  else ['\\', 'u', '{'] ++ digits 16 c.toNat ++ ['}']

def quoted (s : String) : String := String.ofList ('"' :: s.toList.flatMap escaped ++ ['"'])

end EndpointLifecycle.Text
