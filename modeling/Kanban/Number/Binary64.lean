namespace Kanban.Number

/-- The number `± mantissa * 2 ^ exponent`. -/
structure Parts where
  negative : Bool
  mantissa : Nat
  exponent : Int
  deriving DecidableEq, Repr

/-- The infinities and the number that is none have no parts. -/
def parts? (x : Float) : Option Parts :=
  let bits := x.toBits.toNat
  let fraction := bits % Nat.pow 2 52
  let scale := bits / Nat.pow 2 52 % Nat.pow 2 11
  let negative := decide (Nat.pow 2 63 ≤ bits)
  if scale = 2047 then
    none
  else if scale = 0 then
    some ⟨negative, fraction, -1074⟩
  else
    some ⟨negative, fraction + Nat.pow 2 52, Int.ofNat scale - 1075⟩

def Parts.magnitude (parts : Parts) : Nat × Nat :=
  if 0 ≤ parts.exponent then
    (parts.mantissa * Nat.pow 2 parts.exponent.toNat, 1)
  else
    (parts.mantissa, Nat.pow 2 (-parts.exponent).toNat)

def whole? (x : Float) : Option Int :=
  (parts? x).bind fun parts =>
    let (numerator, denominator) := parts.magnitude
    if numerator % denominator = 0 then
      let size := Int.ofNat (numerator / denominator)
      some (if parts.negative then -size else size)
    else
      none

/-- The fraction that a number equals; the infinities lie over the denominator zero. -/
def fraction? (x : Float) : Option (Int × Nat) :=
  match parts? x with
  | some parts =>
      let (numerator, denominator) := parts.magnitude
      some (if parts.negative then -Int.ofNat numerator else numerator, denominator)
  | none => if x == x then some (if x < 0 then -1 else 1, 0) else none

def isNegative (x : Float) : Bool :=
  decide (Nat.pow 2 63 ≤ x.toBits.toNat)

/-- Half of the gap above the greatest finite number: what lies beyond rounds to no finite one. -/
def overflowBound : Nat :=
  Nat.pow 2 1024 - Nat.pow 2 970

/-- The nearest number to a whole one, unless it is too large to have one. -/
def ofInt? (n : Int) : Option Float :=
  if overflowBound ≤ n.natAbs then
    none
  else
    let size := Float.ofScientific n.natAbs false 0
    some (if n < 0 then -size else size)

end Kanban.Number
