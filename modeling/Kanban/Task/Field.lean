import Kanban.Text.Blank
import Kanban.Text.Digit
import Kanban.Trouble

/-!
Fields of a definition and the forms their values may take.  A field that is null counts as absent,
and only the absence of the field itself makes way for a default: whatever is wrong further down is
reported.
-/
namespace Kanban.Field

def present? (node : Tree) (name : String) : Except Failure (Option Tree) :=
  match node with
  | .map entries =>
      match Tree.entry? entries name with
      | some .null => .ok none
      | found => .ok found
  | other => .error (.ofDefinition (.noMapping name other))

def entriesOf : Tree → List (Tree × Tree)
  | .map entries => entries
  | _ => []

def required (node : Tree) (name : String) : Except Failure Tree :=
  match present? node name with
  | .ok (some value) => .ok value
  | .ok none => .error (.ofDefinition (.fieldAbsent name (entriesOf node)))
  | .error failure => .error failure

/-- The value of a field, read, or a default for an absent one.  A node that cannot be written out
cannot be said to lack anything. -/
def withDefault (node : Tree) (name : String) (read : Tree → Except Failure α)
    (fallback : α) : Except Failure α :=
  match present? node name with
  | .ok (some value) => read value
  | .ok none => if node.isWritable then .ok fallback else .error (.misuse .notANumeral)
  | .error failure => .error failure

def word : Tree → Except Failure String
  | .text value => .ok value
  | other => .error (.ofDefinition (.noText other))

/-- Free text may be written as a number. -/
def text : Tree → Except Failure String
  | .text value => .ok value
  | .int value =>
      if Number.isWritable value then .ok (Tree.intText value) else .error (.misuse .notANumeral)
  | .real value => .ok (Tree.numberLayout.render value)
  | .undefined => .ok Tree.numberLayout.undefined
  | other => .error (.ofDefinition (.noText other))

/-- The number that a text stands for once it is trimmed, if it is nothing but digits. -/
def digits? (value : String) : Option Nat :=
  Text.natural? (Text.trim value.toList)

/-- A size is a whole number that is not negative, also as digits that an argument put there, as
long as there are not too many of them. -/
def size : Tree → Except Failure Nat
  | .text value =>
      match digits? value with
      | some number =>
          if (Text.trim value.toList).length ≤ Number.mostDigits then .ok number
          else .error (.misuse .notANumeral)
      | none => .error (.ofDefinition (.noSize (.text value)))
  | .int value =>
      if value < 0 then .error (.ofDefinition (.negativeSize value)) else .ok value.toNat
  | other => .error (.ofDefinition (.noSize other))

def spelledFlag? (value : String) : Option Bool :=
  let letters := (Text.trim value.toList).map Char.toLower
  if letters = ['t', 'r', 'u', 'e'] then some true
  else if letters = ['f', 'a', 'l', 's', 'e'] then some false
  else none

def flag : Tree → Except Failure Bool
  | .bool value => .ok value
  | .text value =>
      match spelledFlag? value with
      | some spelled => .ok spelled
      | none => .error (.ofDefinition (.noFlag (.text value)))
  | other => .error (.ofDefinition (.noFlag other))

def texts : List Tree → Except Failure (List String)
  | [] => .ok []
  | item :: items => do
      let first ← text item
      let rest ← texts items
      return first :: rest

def steps : Tree → Except Failure (List String)
  | .list items => texts items
  | other => .error (.ofDefinition (.noList other))

def tag (node : Tree) : Except Failure String := do
  word (← required node "type")

def choice (ofWord? : String → Option α) (written : String) : Except Failure α :=
  match ofWord? written with
  | some value => .ok value
  | none => .error (.ofDefinition (.unknownTag written))

end Kanban.Field
