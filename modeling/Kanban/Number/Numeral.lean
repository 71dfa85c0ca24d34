import Kanban.Number.Binary64
import Kanban.Text.Blank
import Kanban.Text.Digit

namespace Kanban.Number

/-- The number `± coefficient * 10 ^ exponent`. -/
structure Numeral where
  negative : Bool
  coefficient : Nat
  exponent : Int
  deriving DecidableEq, Repr

/-- Numerals far beyond the range of finite numbers are settled by their size alone. -/
def Numeral.toFloat (numeral : Numeral) : Float :=
  let width := (Nat.toDigits 10 numeral.coefficient).length
  let size :=
    if numeral.coefficient = 0 then 0.0
    else if 310 < width + numeral.exponent then 1.0 / 0.0
    else if width + numeral.exponent < -330 then 0.0
    else Float.ofScientific numeral.coefficient (numeral.exponent < 0) numeral.exponent.natAbs
  if numeral.negative then -size else size

/-- Removes the underscores between two digits; one anywhere else makes the text no numeral. -/
def joinDigits? : List Char → Option (List Char)
  | [] => some []
  | '_' :: _ => none
  | c :: '_' :: next :: rest =>
      if Text.isDigit c && Text.isDigit next then
        (joinDigits? (next :: rest)).map (c :: ·)
      else
        none
  | c :: rest => (joinDigits? rest).map (c :: ·)

def takeSign : List Char → Bool × List Char
  | '-' :: rest => (true, rest)
  | '+' :: rest => (false, rest)
  | chars => (false, chars)

def exponent? : List Char → Option Int
  | [] => some 0
  | mark :: rest =>
      if mark == 'e' || mark == 'E' then
        let (negative, digits) := takeSign rest
        (Text.natural? digits).map fun size => if negative then -Int.ofNat size else size
      else
        none

/-- Digits, a point among them or not, and an exponent. -/
def unsigned? (chars : List Char) : Option (Nat × Int) :=
  let whole := chars.takeWhile Text.isDigit
  let rest := chars.dropWhile Text.isDigit
  let (fraction, tail) :=
    match rest with
    | '.' :: after => (after.takeWhile Text.isDigit, after.dropWhile Text.isDigit)
    | _ => ([], rest)
  if whole.isEmpty && fraction.isEmpty then
    none
  else
    (exponent? tail).map fun exponent =>
      (Text.digitsValue (whole ++ fraction), exponent - fraction.length)

private def lowerAscii (chars : List Char) : List Char :=
  chars.map Char.toLower

/-- The information separators are blank but do not surround a numeral. -/
def isMargin (c : Char) : Bool :=
  Text.isBlank c && !(0x1c ≤ c.toNat && c.toNat ≤ 0x1f)

def trimMargin (chars : List Char) : List Char :=
  ((chars.dropWhile isMargin).reverse.dropWhile isMargin).reverse

def ofText? (text : String) : Option Float :=
  let (negative, body) := takeSign (trimMargin text.toList)
  let word := String.ofList (lowerAscii body)
  if word = "inf" ∨ word = "infinity" then
    some (if negative then -(1.0 / 0.0) else 1.0 / 0.0)
  else if word = "nan" then
    some (0.0 / 0.0)
  else do
    let (coefficient, exponent) ← unsigned? (← joinDigits? body)
    return Numeral.toFloat ⟨negative, coefficient, exponent⟩

end Kanban.Number
