import Kanban.Text.Digit

/-!
The words of a command line.  A word with a dash in front is a switch, unless it is a dash alone, a
negative number or holds a space; a long switch may be shortened as long as it is clear which one is
meant, and short ones may share a dash.  Two dashes alone end the switches.
-/
namespace Kanban.Console

/-- How a command line ends before anything is done: help was asked for, or it cannot be read. -/
inductive Departure where
  | help
  | misused
  deriving DecidableEq, Repr

inductive Switch where
  | help
  | verbose
  | config
  deriving DecidableEq, Repr

structure Switches where
  long : List (List Char × Switch)
  short : List (Char × Switch)

/-- What a word is.  Text behind an equals sign comes with a long switch; what is joined to a short
switch, with an equals sign between them or without, are letters of further ones. -/
inductive Word where
  | operand
  | unknown
  | ambiguous
  | long (found : Switch) (value : Option String)
  | short (found : Switch) (joined : Option (List Char))
  deriving DecidableEq, Repr

def endMark : String :=
  "--"

/-- Digits with at most one point among them; the last character is a digit. -/
def isNumber (chars : List Char) : Bool :=
  let whole := chars.takeWhile Text.isDigit
  match chars.dropWhile Text.isDigit with
  | [] => !whole.isEmpty
  | '.' :: rest => !rest.isEmpty && rest.all Text.isDigit
  | _ => false

/-- A line break at the end of a number does not count. -/
def isNegativeNumber (chars : List Char) : Bool :=
  match chars with
  | '-' :: rest => isNumber (if rest.getLast? = some '\n' then rest.dropLast else rest)
  | _ => false

namespace Switches

/-- A word that starts with a dash and is no known switch. -/
def unknownWord (chars : List Char) : Word :=
  if isNegativeNumber chars || chars.contains ' ' then .operand else .unknown

def longWord (switches : Switches) (chars : List Char) : Word :=
  let name := chars.takeWhile (· != '=')
  let value :=
    match chars.dropWhile (· != '=') with
    | [] => none
    | _ :: rest => some (String.ofList rest)
  match switches.long.find? (·.1 == name) with
  | some (_, found) => .long found value
  | none =>
      match switches.long.filter fun entry => name.isPrefixOf entry.1 with
      | [] => unknownWord chars
      | [(_, found)] => .long found value
      | _ => .ambiguous

def shortSwitch? (switches : Switches) (letter : Char) : Option Switch :=
  (switches.short.find? (·.1 == letter)).map (·.2)

/-- What stands behind the letter of a short switch. -/
def joinedLetters? : List Char → Option (List Char)
  | [] => none
  | '=' :: letters => some letters
  | letters => some letters

def word (switches : Switches) (text : String) : Word :=
  match text.toList with
  | '-' :: '-' :: rest => switches.longWord ('-' :: '-' :: rest)
  | '-' :: letter :: rest =>
      match switches.shortSwitch? letter with
      | some found => .short found (joinedLetters? rest)
      | none => unknownWord ('-' :: letter :: rest)
  | _ => .operand

/-- The switches that share a dash with another one.  None of them takes a value, so what is joined
has to be letters of switches and nothing else. -/
def shared (switches : Switches) : Option (List Char) → Except Departure (List Switch)
  | none => .ok []
  | some [] => .error .misused
  | some letters =>
      letters.mapM fun letter =>
        match switches.shortSwitch? letter with
        | some found => .ok found
        | none => .error .misused

end Switches

def commonSwitches : Switches where
  long := [("--help".toList, .help), ("--config".toList, .config), ("--verbose".toList, .verbose)]
  short := [('h', .help), ('v', .verbose)]

def helpSwitches : Switches where
  long := [("--help".toList, .help)]
  short := [('h', .help)]

end Kanban.Console
