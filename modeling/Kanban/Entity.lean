import Kanban.Number.Numeral
import Kanban.Trouble

namespace Kanban

structure Board where
  id : Tree
  name : Tree
  closed : Bool

structure Column where
  id : Tree
  name : Tree
  closed : Bool

structure Label where
  id : Tree
  name : Tree
  color : Tree

structure Card where
  id : Tree
  name : Tree
  description : Tree
  columnId : Tree
  labelIds : List Tree
  position : Float
  url : Tree
  shortUrl : Tree

namespace Entity

def entries (data : Tree) : Except Misuse (List (Tree × Tree)) :=
  match data with
  | .map entries => .ok entries
  | _ => .error .wrongKind

def identifier (entries : List (Tree × Tree)) : Except Misuse Tree :=
  match Tree.entry? entries "id" with
  | some id => .ok id
  | none => .error .missingEntry

def valueOr (entries : List (Tree × Tree)) (name : String) (fallback : Tree) : Tree :=
  (Tree.entry? entries name).getD fallback

/-- The value as a number: numbers and truth values count as they are, a text as the numeral it
is. -/
def number (value : Tree) : Except Misuse Float :=
  match value with
  | .real x => .ok x
  | .undefined => .ok (0.0 / 0.0)
  | .text s =>
      match Number.ofText? s with
      | some x => .ok x
      | none => .error .notANumeral
  | other =>
      match other.integer? with
      | some n =>
          match Number.ofInt? n with
          | some x => .ok x
          | none => .error .tooLarge
      | none => .error .wrongKind

def positionOf (value : Tree) : Except Misuse Float :=
  number (value.orElse (.real 0.0))

def elementsOf (value : Tree) : Except Misuse (List Tree) :=
  match (value.orElse (.list [])).elements? with
  | some elements => .ok elements
  | none => .error .wrongKind

end Entity

def Board.ofTree (data : Tree) : Except Misuse Board := do
  let entries ← Entity.entries data
  return {
    id := ← Entity.identifier entries
    name := Entity.valueOr entries "name" (.text "")
    closed := (Entity.valueOr entries "closed" .null).isGiven }

def Column.ofTree (data : Tree) : Except Misuse Column := do
  let entries ← Entity.entries data
  return {
    id := ← Entity.identifier entries
    name := Entity.valueOr entries "name" (.text "")
    closed := (Entity.valueOr entries "closed" .null).isGiven }

def Label.ofTree (data : Tree) : Except Misuse Label := do
  let entries ← Entity.entries data
  return {
    id := ← Entity.identifier entries
    name := (Entity.valueOr entries "name" .null).orElse (.text "")
    color := Entity.valueOr entries "color" .null }

def Card.ofTree (data : Tree) : Except Misuse Card := do
  let entries ← Entity.entries data
  return {
    id := ← Entity.identifier entries
    name := Entity.valueOr entries "name" (.text "")
    description := (Entity.valueOr entries "desc" .null).orElse (.text "")
    columnId := Entity.valueOr entries "idList" (.text "")
    labelIds := ← Entity.elementsOf (Entity.valueOr entries "idLabels" .null)
    position := ← Entity.positionOf (Entity.valueOr entries "pos" .null)
    url := Entity.valueOr entries "url" (.text "")
    shortUrl := Entity.valueOr entries "shortUrl" (.text "") }

/-- Reads a list of entities; the first that cannot be read is the one to blame. -/
def Entity.all (read : Tree → Except Misuse α) : List Tree → Except Misuse (List α)
  | [] => .ok []
  | data :: rest => do
      let first ← read data
      let others ← Entity.all read rest
      return first :: others

end Kanban
