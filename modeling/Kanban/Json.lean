import Kanban.Number.Digits
import Kanban.Number.Numeral
import Kanban.Tree

/-!
Reading JSON as a tree.  A numeral with a fraction or an exponent is a real number, any other is an
integer, which has a limit only on its digits; the words for what is not finite count as real
numbers too.

Reading is open: how to read a value is said in terms of how to read the values within it, and
`value` closes the circle for a number of levels.  `fuel` is the number of steps that a row of items
or of characters may take.
-/
namespace Kanban.Json

inductive Flaw where
  | malformed
  | tooDeep
  deriving DecidableEq, Repr

def isBlank (c : Char) : Bool :=
  c == ' ' || c == '\t' || c == '\n' || c == '\r'

def skipBlanks (chars : List Char) : List Char :=
  chars.dropWhile isBlank

def word? (word : String) (chars : List Char) : Option (List Char) :=
  if word.toList.isPrefixOf chars then some (chars.drop word.length) else none

def unit? : List Char → Option (Nat × List Char)
  | a :: b :: c :: d :: rest => do
      let digits ← [a, b, c, d].mapM Text.hexValue?
      return (digits.foldl (16 * · + ·) 0, rest)
  | _ => none

def isHighHalf (unit : Nat) : Bool :=
  0xd800 ≤ unit && unit ≤ 0xdbff

def isLowHalf (unit : Nat) : Bool :=
  0xdc00 ≤ unit && unit ≤ 0xdfff

def joinHalves (high low : Nat) : Nat :=
  0x10000 + (high - 0xd800) * 0x400 + (low - 0xdc00)

/-- Takes the character that one unit names, or two units that are halves of a pair. -/
def numbered? (chars : List Char) : Option (Char × List Char) := do
  let (unit, rest) ← unit? chars
  if isHighHalf unit then
    let (low, rest) ← unit? (← word? "\\u" rest)
    if isLowHalf low then some (Char.ofNat (joinHalves unit low), rest) else none
  else if isLowHalf unit then
    none
  else
    some (Char.ofNat unit, rest)

def escaped? : Char → Option Char
  | '\x22' => some '\x22'
  | '\\' => some '\\'
  | '/' => some '/'
  | 'b' => some '\x08'
  | 'f' => some '\x0c'
  | 'n' => some '\n'
  | 'r' => some '\r'
  | 't' => some '\t'
  | _ => none

def escape? : List Char → Option (Char × List Char)
  | 'u' :: rest => numbered? rest
  | c :: rest => (escaped? c).map (·, rest)
  | [] => none

/-- Takes characters up to a quotation mark and the mark itself; control characters are not
allowed. -/
def quoted? : (fuel : Nat) → (found : List Char) → List Char → Option (List Char × List Char)
  | 0, _, _ => none
  | _, _, [] => none
  | fuel + 1, found, c :: rest =>
      if c = '\x22' then
        some (found.reverse, rest)
      else if c = '\\' then
        match escape? rest with
        | some (meant, rest) => quoted? fuel (meant :: found) rest
        | none => none
      else if c.toNat < 0x20 then
        none
      else
        quoted? fuel (c :: found) rest

def text? (fuel : Nat) (chars : List Char) : Option (String × List Char) :=
  (quoted? fuel [] chars).map fun (found, rest) => (String.ofList found, rest)

def fraction (chars : List Char) : List Char × List Char :=
  match chars with
  | '.' :: rest =>
      let digits := rest.takeWhile Char.isDigit
      if digits.isEmpty then ([], chars) else ('.' :: digits, rest.dropWhile Char.isDigit)
  | _ => ([], chars)

def exponent (chars : List Char) : List Char × List Char :=
  match chars with
  | mark :: rest =>
      let (sign, rest) :=
        match rest with
        | '+' :: rest => (['+'], rest)
        | '-' :: rest => (['-'], rest)
        | _ => ([], rest)
      let digits := rest.takeWhile Char.isDigit
      if (mark == 'e' || mark == 'E') && !digits.isEmpty then
        (mark :: (sign ++ digits), rest.dropWhile Char.isDigit)
      else
        ([], chars)
  | [] => ([], chars)

/-- Takes digits of which the first is zero only if it is alone. -/
def wholePart? (chars : List Char) : Option (List Char × List Char) :=
  match chars with
  | '0' :: rest => some (['0'], rest)
  | _ =>
      let digits := chars.takeWhile Char.isDigit
      if digits.isEmpty then none else some (digits, chars.dropWhile Char.isDigit)

def numeral? (chars : List Char) : Option (Tree × List Char) := do
  let (negative, unsigned) :=
    match chars with
    | '-' :: rest => (true, rest)
    | _ => (false, chars)
  let (whole, rest) ← wholePart? unsigned
  let (tenths, rest) := fraction rest
  let (scale, rest) := exponent rest
  if tenths.isEmpty && scale.isEmpty then
    if Number.mostDigits < whole.length then
      none
    let size := Int.ofNat (Text.digitsValue whole)
    return (.int (if negative then -size else size), rest)
  else
    let size ← Number.ofText? (String.ofList (whole ++ tenths ++ scale))
    return (.real (if negative then -size else size), rest)

def constants : List (String × Tree) :=
  [("null", .null), ("true", .bool true), ("false", .bool false), ("NaN", .undefined),
    ("Infinity", .real (1.0 / 0.0)), ("-Infinity", .real (-(1.0 / 0.0)))]

def constant? (chars : List Char) : Option (Tree × List Char) :=
  constants.findSome? fun (word, value) => (word? word chars).map (value, ·)

abbrev Reader (α : Type) := List Char → Except Flaw (α × List Char)

def orMalformed {α : Type} (found : Option α) : Except Flaw α :=
  match found with
  | some found => .ok found
  | none => .error .malformed

def itemsUpTo {α : Type} (close : Char) (item : Reader α) : (fuel : Nat) → (found : List α) →
    Reader (List α)
  | 0, _, _ => .error .malformed
  | fuel + 1, found, chars => do
      let (next, rest) ← item chars
      match skipBlanks rest with
      | c :: rest =>
          if c = close then
            return ((next :: found).reverse, rest)
          else if c = ',' then
            itemsUpTo close item fuel (next :: found) (skipBlanks rest)
          else
            .error .malformed
      | [] => .error .malformed

def bracketed {α : Type} (close : Char) (item : Reader α) (fuel : Nat) : Reader (List α) :=
  fun chars =>
    match skipBlanks chars with
    | [] => .error .malformed
    | c :: rest =>
        if c = close then .ok ([], rest) else itemsUpTo close item fuel [] (c :: rest)

def entry (inner : Reader Tree) (fuel : Nat) : Reader (Tree × Tree)
  | '\x22' :: rest => do
      let (name, rest) ← orMalformed (text? fuel rest)
      match skipBlanks rest with
      | ':' :: rest => do
          let (value, rest) ← inner (skipBlanks rest)
          return ((.text name, value), rest)
      | _ => .error .malformed
  | _ => .error .malformed

def value (fuel : Nat) : (levels : Nat) → Reader Tree
  | _, '\x22' :: rest =>
      orMalformed ((text? fuel rest).map fun (found, rest) => (.text found, rest))
  | 0, '[' :: _ => .error .tooDeep
  | 0, '\x7b' :: _ => .error .tooDeep
  | levels + 1, '[' :: rest => do
      let (items, rest) ← bracketed ']' (value fuel levels) fuel rest
      return (.list items, rest)
  | levels + 1, '\x7b' :: rest => do
      let (entries, rest) ← bracketed '\x7d' (entry (value fuel levels) fuel) fuel rest
      return (.map (Tree.ofEntries entries), rest)
  | _, chars => orMalformed ((constant? chars).or (numeral? chars))

/-- Lists and mappings may not lie deeper within each other. -/
def deepest : Nat :=
  984

/-- The value that a text holds, with nothing but blanks around it.  Every step takes a character,
so there is fuel enough. -/
def read (text : String) : Except Flaw Tree := do
  let chars := text.toList
  let (found, rest) ← value (chars.length + 1) deepest (skipBlanks chars)
  if (skipBlanks rest).isEmpty then return found else throw .malformed

end Kanban.Json
