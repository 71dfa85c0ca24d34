import Kanban.Number.Decimal
import Kanban.Text.Quoted
import Kanban.Tree

/-!
Trees as text, in two forms.  `Tree.literal` shows what a value is, with texts in quotation marks;
`Tree.shown` is the value as a reader wants it, so a text stands for itself.
-/
namespace Kanban.Tree

/-- Numbers between a ten-thousandth and ten to the sixteenth are written positionally. -/
def numberLayout : Number.Layout where
  firstPoint := -3
  lastPoint := 16
  exponentWidth := 2
  infinity := "inf"
  undefined := "nan"

def dateText (year month day : Nat) : String :=
  let padded (width n : Nat) : String :=
    let digits := Nat.toDigits 10 n
    String.ofList (List.replicate (width - digits.length) '0' ++ digits)
  padded 4 year ++ "-" ++ padded 2 month ++ "-" ++ padded 2 day

def intText (n : Int) : String :=
  toString n

def dateLiteral (year month day : Nat) : String :=
  "datetime.date(" ++ intText year ++ ", " ++ intText month ++ ", " ++ intText day ++ ")"

mutual

def literal : Tree → String
  | null => "None"
  | bool true => "True"
  | bool false => "False"
  | int value => intText value
  | real value => numberLayout.render value
  | undefined => numberLayout.undefined
  | text value => Text.quoted value
  | date year month day => dateLiteral year month day
  | list items => "[" ++ ", ".intercalate (literalItems items) ++ "]"
  | map entries => "\x7b" ++ ", ".intercalate (literalEntries entries) ++ "\x7d"
  | endless written _ => written
  | foreign value _ => value.literal

def literalItems : List Tree → List String
  | [] => []
  | item :: items => item.literal :: literalItems items

def literalEntries : List (Tree × Tree) → List String
  | [] => []
  | (key, value) :: entries => (key.literal ++ ": " ++ value.literal) :: literalEntries entries

end

def shown : Tree → String
  | text value => value
  | date year month day => dateText year month day
  | foreign value _ => value.shown
  | other => other.literal

@[simp] theorem shown_text (s : String) : shown (text s) = s := rfl

@[simp] theorem literal_text (s : String) : literal (text s) = Text.quoted s := rfl

def textsLiteral (texts : List String) : String :=
  literal (list (texts.map text))

end Kanban.Tree
