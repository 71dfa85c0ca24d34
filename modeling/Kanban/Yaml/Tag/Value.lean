import Kanban.Number.Digits
import Kanban.Trouble
import Kanban.Yaml.Tag

namespace Kanban.Yaml

/-- Why a text gives no value: it is no document, or a value is none of the type it claims. -/
inductive Refusal where
  | fault (fault : Fault)
  | misuse (misuse : Misuse)

/-- A number that is no character's is not foreseen, like one that is too large, and neither are
bytes that encode no characters and a value that lies too deep. -/
def Refusal.ofFault (fault : Fault) : Refusal :=
  match fault.flaw with
  | .beyondCharacters code => .misuse (if code < 0x80000000 then .notANumeral else .tooLarge)
  | .undecodable => .misuse .undecodable
  | .nestedTooDeep => .misuse .endless
  | _ => .fault fault

def refuse {α : Type} (flaw : Flaw) : Except Refusal α :=
  .error (.fault { flaw })

namespace Tag

/-- Whether digits of a base are too many to be read; where the base is a power of two, they never
are. -/
def hasTooManyDigits (base : Nat) (digits : List Char) : Bool :=
  base == 10 && Number.mostDigits < digits.length

def inBase? (base : Nat) (mark : Option Char) (chars : List Char) : Option Int :=
  let (negative, size) := Number.takeSign (Number.trimMargin chars)
  let digits :=
    match size with
    | '0' :: c :: rest => if some c.toLower = mark then rest else size
    | _ => size
  let value? := fun c => ((Text.digitValue? c).or (Text.hexValue? c)).filter (· < base)
  if digits.isEmpty || hasTooManyDigits base digits then
    none
  else
    (digits.foldlM (fun sum c => (value? c).map (base * sum + ·)) 0).map fun sum =>
      if negative then -Int.ofNat sum else sum

def sixtieths? (chars : List Char) : Option Int :=
  (Text.parts ':' chars).foldlM (fun sum piece => (inBase? 10 none piece).map (60 * sum + ·)) 0

/-- Reads the digits behind the sign, of which there has to be one. -/
def unsignedInt (chars : List Char) : Except Misuse Int :=
  let numeral := fun (found : Option Int) =>
    match found with
    | some value => Except.ok value
    | none => .error Misuse.notANumeral
  match chars with
  | [] => .error .noSuchPlace
  | ['0'] => .ok 0
  | '0' :: 'b' :: digits => numeral (inBase? 2 (some 'b') digits)
  | '0' :: 'x' :: digits => numeral (inBase? 16 (some 'x') digits)
  | '0' :: _ => numeral (inBase? 8 (some 'o') chars)
  | _ => numeral (if chars.contains ':' then sixtieths? chars else inBase? 10 none chars)

def readInt (text : String) : Except Misuse Int := do
  let (negative, chars) := Number.takeSign (text.toList.filter (· != '_'))
  let size ← unsignedInt chars
  return if negative then -size else size

/-- The sum of the parts, the last one whole and each one before it sixty times as much; a power of
sixty that is no finite number is too large. -/
def sumOfSixtieths (parts : List Float) : Except Misuse Float := do
  let (sum, _) ← parts.reverse.foldlM
    (fun (sum, unit) part =>
      match Number.ofInt? (Int.ofNat unit) with
      | some factor => .ok (sum + part * factor, 60 * unit)
      | none => .error Misuse.tooLarge)
    (0.0, 1)
  return sum

def unsignedReal (chars : List Char) : Except Misuse Float :=
  if chars = ['.', 'i', 'n', 'f'] then
    .ok (1.0 / 0.0)
  else
    match (Text.parts ':' chars).mapM fun piece => Number.ofText? (String.ofList piece) with
    | some [value] => .ok value
    | some parts => sumOfSixtieths parts
    | none => .error .notANumeral

def readReal (text : String) : Except Misuse Tree :=
  match (text.toList.filter (· != '_')).map Char.toLower with
  | [] => .error .noSuchPlace
  | chars => do
      let (negative, size) := Number.takeSign chars
      if size = ['.', 'n', 'a', 'n'] then
        return .undefined
      let value ← unsignedReal size
      return .real (if negative then -value else value)

/-- A day whose tag is written may have one digit for its month and one for its day. -/
def dayForms : List String :=
  ["dddd-dd-dd", "dddd-d-dd", "dddd-dd-d", "dddd-d-d"]

/-- The year, the month and the day that a text names, which need not be a day of the calendar. -/
def dayParts? (chars : List Char) : Option (Nat × Nat × Nat) :=
  if dayForms.any (hasForm · chars) then
    let rest := chars.drop 5
    let month := rest.takeWhile (· != '-')
    let day := rest.drop (month.length + 1)
    some (Text.digitsValue (chars.take 4), Text.digitsValue month, Text.digitsValue day)
  else
    none

/-- A day of the calendar, or a moment on one. -/
def readDate (text : String) : Except Misuse Tree :=
  let chars := withoutLastBreak text.toList
  match dayParts? chars, Moment.ofChars? chars with
  | some (year, month, day), _ =>
      if isDayOfCalendar year month day then .ok (.date year month day) else .error .notANumeral
  | none, some moment => if moment.isValid then .ok moment.toTree else .error .notANumeral
  | none, none => .error .noSuchPart

def readBool (text : String) : Except Misuse Bool :=
  match truthWords.find? (·.1 == text.map Char.toLower) with
  | some entry => .ok entry.2
  | none => .error .missingEntry

def read (tag : Tag) (text : String) : Except Refusal Tree :=
  match tag with
  | null => .ok .null
  | bool => (Tree.bool <$> readBool text).mapError .misuse
  | int => (Tree.int <$> readInt text).mapError .misuse
  | real => (readReal text).mapError .misuse
  | date => (readDate text).mapError .misuse
  | .text => .ok (.text text)
  | list | map => refuse .wrongContent
  | merge | default | unknown => refuse .unknownType

end Tag

end Kanban.Yaml
