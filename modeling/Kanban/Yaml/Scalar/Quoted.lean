import Kanban.Text.Digit
import Kanban.Yaml.Cursor

namespace Kanban.Yaml

inductive Quotation where
  | single
  | double
  deriving DecidableEq, Repr

namespace Quotation

def mark : Quotation → Char
  | single => '\x27'
  | double => '\x22'

/-- Takes empty lines together with the margin of the line behind them. -/
def emptyLines : Nat → Scan (List Char)
  | 0 => return []
  | fuel + 1 => do
      if (← get).atAnyMarker then
        Scan.fail .markerInQuotation
      Scan.skipWhile isSpaceOrTab
      match ← Scan.lineBreak? with
      | some c => return c :: (← emptyLines fuel)
      | none => return []

/-- Takes spaces and tabs, or a line break with the margins around it. -/
def gap (fuel : Nat) : Scan (List Char) := do
  let spaces ← Scan.run isSpaceOrTab
  match ← Scan.lineBreak? with
  | some c => return foldedBreak c (← emptyLines fuel)
  | none => return spaces

/-- The characters that a letter behind a backslash stands for. -/
def escaped? : Char → Option Char
  | '0' => some '\x00'
  | 'a' => some '\x07'
  | 'b' => some '\x08'
  | 't' => some '\t'
  | '\t' => some '\t'
  | 'n' => some '\n'
  | 'v' => some '\x0b'
  | 'f' => some '\x0c'
  | 'r' => some '\r'
  | 'e' => some '\x1b'
  | ' ' => some ' '
  | '\x22' => some '\x22'
  | '\\' => some '\\'
  | '/' => some '/'
  | 'N' => some '\x85'
  | '_' => some '\xa0'
  | 'L' => some '\u2028'
  | 'P' => some '\u2029'
  | _ => none

def escapeWidth? : Char → Option Nat
  | 'x' => some 2
  | 'u' => some 4
  | 'U' => some 8
  | _ => none

def hexNumber? (digits : List Char) : Option Nat :=
  digits.foldlM (fun value c => (Text.hexValue? c).map (16 * value + ·)) 0

def lastCharacter : Nat :=
  0x10ffff

def escape (fuel : Nat) : Scan (List Char) := do
  let some c ← Scan.peek | Scan.fail .unknownEscape
  if let some replaced := escaped? c then
    Scan.skip
    return [replaced]
  else if let some width := escapeWidth? c then
    Scan.skip
    let digits := (← get).rest.take width
    match hexNumber? digits with
    | some code =>
        if digits.length = width ∧ code.isValidChar then
          Scan.skip width
          return [Char.ofNat code]
        else if digits.length = width ∧ lastCharacter < code then
          Scan.fail (.beyondCharacters code)
        else
          Scan.fail .escapeDigits
    | none => Scan.fail .escapeDigits
  else
    match ← Scan.lineBreak? with
    | some _ => emptyLines fuel
    | none => Scan.fail .unknownEscape

def isPlainChar (c : Char) : Bool :=
  !(c == single.mark || c == double.mark || c == '\\' || isBreak c || isSpaceOrTab c)

def content (quotation : Quotation) : Nat → Scan (List Char)
  | 0 => Scan.fail .unfinishedQuotation
  | fuel + 1 => do
      let some c ← Scan.peek | Scan.fail .unfinishedQuotation
      if isBreak c || isSpaceOrTab c then
        return (← gap fuel) ++ (← quotation.content fuel)
      else if c == quotation.mark then
        Scan.skip
        if quotation = .single ∧ (← Scan.peek) = some single.mark then
          Scan.skip
          return single.mark :: (← quotation.content fuel)
        else
          return []
      else if c == '\\' && quotation == .double then
        Scan.skip
        return (← escape fuel) ++ (← quotation.content fuel)
      else if isPlainChar c then
        return (← Scan.run isPlainChar) ++ (← quotation.content fuel)
      else
        Scan.skip
        return c :: (← quotation.content fuel)

def scan (quotation : Quotation) : Scan String := do
  Scan.skip
  return String.ofList (← quotation.content (← get).room)

end Quotation

end Kanban.Yaml
