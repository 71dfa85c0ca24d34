import Kanban.Arguments
import Kanban.Text.Order

/-!
Placeholders in texts.  A placeholder is a name between two markers `~~`, at least one character
long and on one line; it ends at the first marker that can close it.  Cutting a text into pieces
depends on the text alone, so an unknown name keeps its markers and nothing inside a value is ever
taken for a placeholder.
-/
namespace Kanban.Template

inductive Piece where
  | letter (c : Char)
  | slot (name : List Char)
  deriving DecidableEq, Repr

/-- What stands before the first marker of the line, and what follows the marker. -/
def untilMarker? : List Char → Option (List Char × List Char)
  | '~' :: '~' :: rest => some ([], rest)
  | [] => none
  | c :: rest =>
      if c = '\n' then
        none
      else
        (untilMarker? rest).map fun (name, after) => (c :: name, after)

/-- The name that an opening marker starts, and what follows its closing marker. -/
def name? : List Char → Option (List Char × List Char)
  | [] => none
  | c :: rest =>
      if c = '\n' then
        none
      else
        (untilMarker? rest).map fun (name, after) => (c :: name, after)

theorem untilMarker?_shorter {chars name after : List Char}
    (found : untilMarker? chars = some (name, after)) : after.length < chars.length := by
  induction chars using untilMarker?.induct generalizing name after with
  | case1 rest =>
      simp only [untilMarker?, Option.some.injEq, Prod.mk.injEq] at found
      simp only [List.length_cons, ← found.2]
      omega
  | case2 => simp [untilMarker?] at found
  | case3 rest _ => simp [untilMarker?] at found
  | case4 c rest notMarker notNewline ih =>
      rw [untilMarker?.eq_3 c rest notMarker, if_neg notNewline] at found
      obtain ⟨⟨inner, tail⟩, located, equal⟩ := Option.map_eq_some_iff.mp found
      simp only [Prod.mk.injEq] at equal
      have shorter := ih located
      rw [equal.2] at shorter
      simp only [List.length_cons]
      omega

theorem name?_shorter {chars name after : List Char}
    (found : name? chars = some (name, after)) : after.length < chars.length := by
  cases chars with
  | nil => simp [name?] at found
  | cons c rest =>
      by_cases newline : c = '\n'
      · simp [name?, newline] at found
      · rw [name?, if_neg newline] at found
        obtain ⟨⟨inner, tail⟩, located, equal⟩ := Option.map_eq_some_iff.mp found
        simp only [Prod.mk.injEq] at equal
        have shorter := untilMarker?_shorter located
        rw [equal.2] at shorter
        simp only [List.length_cons]
        omega

/-- The pieces of a text, found from the left without overlap. -/
def pieces : List Char → List Piece
  | '~' :: '~' :: rest =>
      match _found : name? rest with
      | some (name, after) => .slot name :: pieces after
      | none => .letter '~' :: pieces ('~' :: rest)
  | [] => []
  | c :: rest => .letter c :: pieces rest
termination_by chars => chars.length
decreasing_by
  · have shorter := name?_shorter _found
    simp only [List.length_cons]
    omega
  · simp only [List.length_cons]
    omega
  · simp only [List.length_cons]
    omega

def marker : List Char :=
  ['~', '~']

def Piece.written : Piece → List Char
  | letter c => [c]
  | slot name => marker ++ name ++ marker

/-- A known name becomes its value; an unknown one stays as it is written. -/
def Piece.filled (arguments : Arguments) : Piece → List Char
  | letter c => [c]
  | slot name =>
      match arguments.value? (String.ofList name) with
      | some value => value.shown.toList
      | none => (slot name).written

def Piece.name? : Piece → Option String
  | letter _ => none
  | slot name => some (String.ofList name)

def substitute (arguments : Arguments) (text : String) : String :=
  String.ofList ((pieces text.toList).flatMap (Piece.filled arguments))

def textNames (text : String) : List String :=
  (pieces text.toList).filterMap Piece.name?

mutual

/-- The tree with every text filled, keys of mappings included; a value without end stays as it
is. -/
def resolve (arguments : Arguments) : Tree → Tree
  | .null => .null
  | .bool value => .bool value
  | .int value => .int value
  | .real value => .real value
  | .undefined => .undefined
  | .text value => .text (substitute arguments value)
  | .date year month day => .date year month day
  | .list items => .list (resolveItems arguments items)
  | .map entries => .map (Tree.ofEntries (resolveEntries arguments entries))
  | .endless written inside => .endless written inside
  | .foreign value items => .foreign value items

def resolveItems (arguments : Arguments) : List Tree → List Tree
  | [] => []
  | item :: items => resolve arguments item :: resolveItems arguments items

def resolveEntries (arguments : Arguments) : List (Tree × Tree) → List (Tree × Tree)
  | [] => []
  | (key, value) :: entries =>
      (resolve arguments key, resolve arguments value) :: resolveEntries arguments entries

end

mutual

def placeholders : Tree → List String
  | .null | .bool _ | .int _ | .real _ | .undefined | .date .. | .endless .. | .foreign .. => []
  | .text value => textNames value
  | .list items => itemPlaceholders items
  | .map entries => entryPlaceholders entries

def itemPlaceholders : List Tree → List String
  | [] => []
  | item :: items => placeholders item ++ itemPlaceholders items

def entryPlaceholders : List (Tree × Tree) → List String
  | [] => []
  | (key, value) :: entries =>
      placeholders key ++ placeholders value ++ entryPlaceholders entries

end

@[simp] theorem pieces_nil : pieces [] = [] := by
  simp [pieces]

@[simp] theorem resolve_text (arguments : Arguments) (text : String) :
    resolve arguments (.text text) = .text (substitute arguments text) := by
  simp [resolve]

end Kanban.Template
