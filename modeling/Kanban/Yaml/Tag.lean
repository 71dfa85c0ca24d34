import Kanban.Number.Numeral
import Kanban.Yaml.Fault
import Kanban.Yaml.Moment

namespace Kanban.Yaml

/-- `merge` and `default` mark keys: that of a mapping to be merged, and that of the value which a
mapping stands for where a scalar is asked for. -/
inductive Tag where
  | null
  | bool
  | int
  | real
  | date
  | text
  | list
  | map
  | merge
  | default
  | unknown
  deriving DecidableEq, Repr

namespace Tag

def ofName (name : String) : Tag :=
  match name with
  | "tag:yaml.org,2002:null" => null
  | "tag:yaml.org,2002:bool" => bool
  | "tag:yaml.org,2002:int" => int
  | "tag:yaml.org,2002:float" => real
  | "tag:yaml.org,2002:timestamp" => date
  | "tag:yaml.org,2002:str" => text
  | "tag:yaml.org,2002:seq" => list
  | "tag:yaml.org,2002:map" => map
  | "tag:yaml.org,2002:merge" => merge
  | "tag:yaml.org,2002:value" => default
  | _ => unknown

def isAsciiDigit (c : Char) : Bool :=
  c.isDigit

/-- Underscores may stand anywhere behind the first digit of a number. -/
def isDigitOrJoint (c : Char) : Bool :=
  c.isDigit || c == '_'

def isRow (belongs : Char → Bool) (chars : List Char) : Bool :=
  !chars.isEmpty && chars.all belongs

def isSixtieth : List Char → Bool
  | [c] => c.isDigit
  | [c, d] => '0' ≤ c && c ≤ '5' && d.isDigit
  | _ => false

def startsPositive (chars : List Char) : Bool :=
  chars.head?.any fun c => '1' ≤ c && c ≤ '9'

def isUnsignedInt (chars : List Char) : Bool :=
  match chars with
  | ['0'] => true
  | '0' :: 'b' :: digits => isRow (fun c => c == '0' || c == '1' || c == '_') digits
  | '0' :: 'x' :: digits => isRow (fun c => (Text.hexValue? c).isSome || c == '_') digits
  | '0' :: digits => isRow (fun c => ('0' ≤ c && c ≤ '7') || c == '_') digits
  | _ =>
      match Text.parts ':' chars with
      | [] => false
      | first :: others =>
          startsPositive first && first.all isDigitOrJoint && others.all isSixtieth

/-- An exponent has a sign. -/
def isExponent : List Char → Bool
  | [] => true
  | mark :: sign :: digits =>
      (mark == 'e' || mark == 'E') && (sign == '+' || sign == '-') && isRow isAsciiDigit digits
  | _ => false

def isUnsignedReal (chars : List Char) : Bool :=
  let whole := chars.takeWhile (· != '.')
  match chars.dropWhile (· != '.') with
  | '.' :: rest =>
      let exponent := rest.dropWhile isDigitOrJoint
      match Text.parts ':' whole with
      | [] => false
      | [only] =>
          only.head?.any isAsciiDigit && only.all isDigitOrJoint && isExponent exponent
      | first :: others =>
          first.head?.any isAsciiDigit && first.all isDigitOrJoint && others.all isSixtieth &&
            exponent.isEmpty
  | _ => false

/-- A number without a digit before its point has no sign. -/
def isFraction : List Char → Bool
  | '.' :: rest =>
      rest.head?.any isAsciiDigit && isExponent (rest.dropWhile isDigitOrJoint)
  | _ => false

def isInfinity (chars : List Char) : Bool :=
  [".inf", ".Inf", ".INF"].contains (String.ofList chars)

def isUndefined (chars : List Char) : Bool :=
  [".nan", ".NaN", ".NAN"].contains (String.ofList chars)

def unsigned (chars : List Char) : List Char :=
  (Number.takeSign chars).2

def isReal (chars : List Char) : Bool :=
  isUnsignedReal (unsigned chars) || isFraction chars || isInfinity (unsigned chars) ||
    isUndefined chars

def isInt (chars : List Char) : Bool :=
  isUnsignedInt (unsigned chars)

/-- Whether digits stand at the places of the letter `d`, and at the others what the form shows. -/
def hasForm (form : String) (chars : List Char) : Bool :=
  form.length == chars.length &&
    (form.toList.zip chars).all fun (mark, c) => if mark == 'd' then c.isDigit else c == mark

def isDay (chars : List Char) : Bool :=
  hasForm "dddd-dd-dd" chars

def truthWords : List (String × Bool) :=
  [("yes", true), ("no", false), ("true", true), ("false", false), ("on", true), ("off", false)]

/-- Words are recognized in lower case, in upper case and with a capital. -/
def spellings (word : String) : List String :=
  [word, word.capitalize, word.map Char.toUpper]

def isTruthWord (text : String) : Bool :=
  truthWords.any fun entry => (spellings entry.1).contains text

def isNullWord (text : String) : Bool :=
  text == "" || text == "~" || (spellings "null").contains text

def isIndicator (text : String) : Bool :=
  ["!", "&", "*"].contains text

/-- A line break at the very end does not change the type that a text shows. -/
def withoutLastBreak (chars : List Char) : List Char :=
  if 1 < chars.length ∧ chars.getLast? = some '\n' then chars.dropLast else chars

/-- The type that a plain scalar shows by its form. -/
def ofPlain (written : String) : Tag :=
  let chars := withoutLastBreak written.toList
  let word := String.ofList chars
  if isNullWord word then null
  else if isTruthWord word then bool
  else if isReal chars then real
  else if isInt chars then int
  else if isDay chars || (Moment.ofChars? chars).isSome then date
  else if word = "<<" then merge
  else if word = "=" then default
  else if isIndicator word then unknown
  else text

end Tag

end Kanban.Yaml
