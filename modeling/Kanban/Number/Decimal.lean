import Kanban.Number.Binary64

/-!
Decimal text of a binary64 number: the fewest digits that read back as the number and, among
those, the ones nearest to it.

The numbers that read back as `x` form an interval around it, whose ends belong to it exactly when
the mantissa is even.  If a decimal grid has a point in the interval, one of the two neighbours of
`x` on the grid lies in it, so it suffices to test those two for one digit, two digits and so on.
-/
namespace Kanban.Number

/-- The number `coefficient * 10 ^ exponent`. -/
structure Decimal where
  coefficient : Nat
  exponent : Int
  deriving DecidableEq, Repr

def digitCount (n : Nat) : Nat :=
  (Nat.toDigits 10 n).length

/-- The `p` with `10 ^ (p - 1) ≤ numerator / denominator < 10 ^ p`. -/
def decimalPoint (numerator denominator : Nat) : Int :=
  if denominator ≤ numerator then
    digitCount (numerator / denominator)
  else
    let width := digitCount (denominator / numerator)
    if numerator * Nat.pow 10 (width - 1) = denominator then 2 - width else 1 - width

/-- An interval of positive fractions with a point in it, over a common denominator. -/
structure Neighbourhood where
  low : Nat
  middle : Nat
  high : Nat
  denominator : Nat
  closed : Bool

/-- The fractions that round to a number: halfway to its neighbours on both sides. -/
def Parts.neighbourhood (parts : Parts) : Neighbourhood :=
  let below := if parts.mantissa = Nat.pow 2 52 ∧ -1074 < parts.exponent then 1 else 2
  let scale := parts.exponent - 2
  let factor := if 0 ≤ scale then Nat.pow 2 scale.toNat else 1
  { low := (4 * parts.mantissa - below) * factor
    middle := 4 * parts.mantissa * factor
    high := (4 * parts.mantissa + 2) * factor
    denominator := if 0 ≤ scale then 1 else Nat.pow 2 (-scale).toNat
    closed := parts.mantissa % 2 == 0 }

/-- Whether `coefficient * unit` lies in the interval, where `unit` is a fraction. -/
def Neighbourhood.contains (around : Neighbourhood) (unit : Nat × Nat) (coefficient : Nat) : Bool :=
  let point := coefficient * unit.1 * around.denominator
  let low := around.low * unit.2
  let high := around.high * unit.2
  if around.closed then low ≤ point && point ≤ high else low < point && point < high

/-- The grid point in the interval that is nearest to its middle, the even one of two. -/
def Neighbourhood.onGrid? (around : Neighbourhood) (exponent : Int) : Option Decimal :=
  let unit : Nat × Nat :=
    if 0 ≤ exponent then (Nat.pow 10 exponent.toNat, 1) else (1, Nat.pow 10 (-exponent).toNat)
  let middle := around.middle * unit.2
  let step := unit.1 * around.denominator
  let floor := middle / step
  let above := 2 * (middle % step)
  let floorFits := around.contains unit floor
  let ceilingFits := around.contains unit (floor + 1)
  let useFloor := above < step || (above == step && floor % 2 == 0)
  match floorFits, ceilingFits with
  | true, true => some ⟨if useFloor then floor else floor + 1, exponent⟩
  | true, false => some ⟨floor, exponent⟩
  | false, true => some ⟨floor + 1, exponent⟩
  | false, false => none

/-- Tries ever finer grids; the seventeenth digit always suffices. -/
def Neighbourhood.coarsest (around : Neighbourhood) (point : Int) : (digits tries : Nat) → Decimal
  | _, 0 => ⟨around.middle / around.denominator, 0⟩
  | digits, tries + 1 =>
      match around.onGrid? (point - digits) with
      | some decimal => decimal
      | none => around.coarsest point (digits + 1) tries

def Decimal.trimZeros (digits : List Char) : List Char :=
  (digits.reverse.dropWhile (· == '0')).reverse

/-- The significant digits and the place of the point counted from the first of them. -/
def Decimal.scientific (decimal : Decimal) : List Char × Int :=
  let digits := Nat.toDigits 10 decimal.coefficient
  (trimZeros digits, digits.length + decimal.exponent)

def Parts.shortest (parts : Parts) : List Char × Int :=
  let around := parts.neighbourhood
  (around.coarsest (decimalPoint around.middle around.denominator) 1 17).scientific

/-- How a decimal is laid out: the places of the point that are written positionally, the least
width of an exponent, and the words for what is no finite number. -/
structure Layout where
  firstPoint : Int
  lastPoint : Int
  exponentWidth : Nat
  infinity : String
  undefined : String

private def zeros (n : Nat) : List Char :=
  List.replicate n '0'

def Layout.positional (digits : List Char) (point : Int) : List Char :=
  if point ≤ 0 then
    '0' :: '.' :: zeros (-point).toNat ++ digits
  else if digits.length ≤ point.toNat then
    digits ++ zeros (point.toNat - digits.length) ++ ['.', '0']
  else
    digits.take point.toNat ++ '.' :: digits.drop point.toNat

def Layout.exponential (layout : Layout) (digits : List Char) (point : Int) : List Char :=
  let power := point - 1
  let written := Nat.toDigits 10 power.natAbs
  let mantissa :=
    match digits with
    | [] => []
    | [digit] => [digit]
    | digit :: rest => digit :: '.' :: rest
  mantissa ++ 'e' :: (if power < 0 then '-' else '+') ::
    (zeros (layout.exponentWidth - written.length) ++ written)

def Layout.unsigned (layout : Layout) (parts : Parts) : List Char :=
  if parts.mantissa = 0 then
    ['0', '.', '0']
  else
    let (digits, point) := parts.shortest
    if layout.firstPoint ≤ point ∧ point ≤ layout.lastPoint then
      Layout.positional digits point
    else
      layout.exponential digits point

def Layout.render (layout : Layout) (x : Float) : String :=
  match parts? x with
  | none =>
      if x == x then (if isNegative x then "-" else "") ++ layout.infinity else layout.undefined
  | some parts =>
      String.ofList ((if parts.negative then ['-'] else []) ++ layout.unsigned parts)

end Kanban.Number
