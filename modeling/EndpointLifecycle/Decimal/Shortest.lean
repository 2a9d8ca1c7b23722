import EndpointLifecycle.Text.Numeral

/-!
# Shortest decimal numbers

A binary64 number is written with as few digits as bring it back when read and rounded to nearest;
of several such numbers with few digits the nearest is taken. The number is `m * 2 ^ q`, and all
comparisons are made on whole numbers.
-/

namespace EndpointLifecycle.Decimal

/-- A positive binary64 number `m * 2 ^ q`. -/
structure Binary where
  m : Nat
  q : Int
  /-- The number below is only half as far away as the number above. -/
  closeBelow : Bool

def exponentField (bits : UInt64) : Nat := bits.toNat / Nat.pow 2 52 % Nat.pow 2 11

def fractionField (bits : UInt64) : Nat := bits.toNat % Nat.pow 2 52

def isNegative (bits : UInt64) : Bool := Nat.pow 2 63 ≤ bits.toNat

/-- The magnitude of a number that is finite and not zero. -/
def Binary.ofBits (bits : UInt64) : Binary :=
  let e := exponentField bits
  let f := fractionField bits
  if e = 0 then ⟨f, -1074, false⟩
  else ⟨f + Nat.pow 2 52, (e : Int) - 1075, f == 0 && 1 < e⟩

/-- The number, its lower and its upper bound, in units of a common denominator. The bounds are half
way to the numbers below and above. -/
structure Scaled where
  value : Nat
  lower : Nat
  upper : Nat
  denominator : Nat
  /-- The bounds themselves round to the number. -/
  closed : Bool

def Binary.scaled (b : Binary) : Scaled :=
  let unit := Nat.pow 2 b.q.toNat
  { value := 4 * b.m * unit
    lower := (4 * b.m - (if b.closeBelow then 1 else 2)) * unit
    upper := (4 * b.m + 2) * unit
    denominator := 4 * Nat.pow 2 (-b.q).toNat
    closed := b.m % 2 = 0 }

/-- Whether `d * 10 ^ k` lies between the bounds. -/
def Scaled.contains (s : Scaled) (d : Nat) (k : Int) : Bool :=
  let x := d * Nat.pow 10 k.toNat * s.denominator
  let scale := Nat.pow 10 (-k).toNat
  if s.closed then s.lower * scale ≤ x && x ≤ s.upper * scale
  else s.lower * scale < x && x < s.upper * scale

/-- The largest `d` for which `d * 10 ^ k` is at most the number. -/
def Scaled.floor (s : Scaled) (k : Int) : Nat :=
  s.value * Nat.pow 10 (-k).toNat / (s.denominator * Nat.pow 10 k.toNat)

/-- Of two numbers beside each other on the grid `10 ^ k`, the one nearer to the number; an even one
from half way. -/
def Scaled.nearer (s : Scaled) (d : Nat) (k : Int) : Nat :=
  let x := 2 * s.value * Nat.pow 10 (-k).toNat
  let half := (2 * d + 1) * Nat.pow 10 k.toNat * s.denominator
  if x < half ∨ x = half ∧ d % 2 = 0 then d else d + 1

/-- A number `d * 10 ^ k` between the bounds, if there is one on the grid. -/
def Scaled.onGrid? (s : Scaled) (k : Int) : Option Nat :=
  let d := s.floor k
  let below := s.contains d k
  let above := s.contains (d + 1) k
  if below && above then some (s.nearer d k)
  else if below then some d
  else if above then some (d + 1)
  else none

/-- Tries the grid `10 ^ k` and then up to `fuel` finer ones. -/
def Scaled.search (s : Scaled) (k : Int) : Nat → Nat × Int
  | 0 => (s.floor k, k)
  | fuel + 1 =>
    match s.onGrid? k with
    | some d => (d, k)
    | none => s.search (k - 1) fuel

/-- A power of ten above the number, and not far above it. -/
def Binary.above (b : Binary) : Int :=
  let top : Int := (Text.digits 10 (2 * b.m * Nat.pow 2 b.q.toNat)).length
  top - (-b.q).toNat * 3 / 10

/-- Seventeen digits are always enough, so that far fewer than forty grids are tried. -/
def Binary.shortest (b : Binary) : Nat × Int := b.scaled.search b.above 40

/-- How a number is laid out. It has no exponent where the position of the point, counted from the
first digit, lies above `low` and is at most `high`. -/
structure Format where
  low : Int
  high : Int
  /-- Whether an exponent above zero has a sign. -/
  plus : Bool

def Format.exponent (f : Format) (e : Int) : List Char :=
  'e' :: (if f.plus ∧ 0 < e then ['+'] else []) ++ (toString e).toList

/-- Drops zeros at the end of the digits. -/
def trimmed (d : Nat) (k : Int) : List Char × Int :=
  let ds := Text.digits 10 d
  let kept := (ds.reverse.dropWhile (· == '0')).reverse
  (kept, k + (ds.length - kept.length : Nat))

/-- Writes the digits `ds` times `10 ^ k`. -/
def layout (f : Format) (ds : List Char) (k : Int) : List Char :=
  let point : Int := ds.length + k
  if 0 ≤ k ∧ point ≤ f.high then ds ++ List.replicate k.toNat '0' ++ ['.', '0']
  else if 0 < point ∧ point ≤ f.high then ds.take point.toNat ++ '.' :: ds.drop point.toNat
  else if f.low < point ∧ point ≤ 0 then
    ['0', '.'] ++ List.replicate (-point).toNat '0' ++ ds
  else
    let exponent := f.exponent (point - 1)
    match ds with
    | [] => exponent
    | [d] => d :: exponent
    | d :: rest => d :: '.' :: rest ++ exponent

/-- The text of a finite binary64 number. -/
def text (f : Format) (bits : UInt64) : String :=
  let sign := if isNegative bits then ['-'] else []
  if exponentField bits = 0 ∧ fractionField bits = 0 then String.ofList (sign ++ ['0', '.', '0'])
  else
    let (d, k) := (Binary.ofBits bits).shortest
    let (ds, k) := trimmed d k
    String.ofList (sign ++ layout f ds k)

end EndpointLifecycle.Decimal
