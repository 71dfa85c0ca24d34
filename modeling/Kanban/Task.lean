/-!
The task language.  A task takes cards from a source, orders or filters the cards in the pipe, acts
on them, or refers to other tasks by name: a group runs each of them on its own, a flow hands one
pipeline from each to the next.
-/
namespace Kanban

inductive Place where
  | top
  | bottom
  | random
  deriving DecidableEq, Repr

inductive Source where
  | pipe
  | board
  | column (name : String)
  deriving DecidableEq, Repr

structure Target where
  column : String
  place : Place := .top
  deriving DecidableEq, Repr

structure CardInfo where
  name : String
  description : String := ""
  deriving DecidableEq, Repr

inductive OrderKind where
  | shuffle
  | sort
  | reverse
  deriving DecidableEq, Repr

inductive FilterBy where
  | name
  | label
  deriving DecidableEq, Repr

/-- Copying and moving need a target, adding a target and a card, printing neither. -/
inductive Action where
  | print
  | copy (target : Target)
  | move (target : Target)
  | add (target : Target) (card : CardInfo)
  deriving DecidableEq, Repr

/-- The size zero takes everything. -/
inductive Body where
  | take (source : Source) (size : Nat) (place : Place)
  | order (kind : OrderKind) (source : Source)
  | filter (criterion : FilterBy) (value : String) (caseSensitive : Bool)
  | act (action : Action)
  | group (steps : List String)
  | flow (steps : List String)
  deriving DecidableEq, Repr

namespace Place

def word : Place → String
  | top => "top"
  | bottom => "bottom"
  | random => "random"

def ofWord? : String → Option Place
  | "top" => some top
  | "bottom" => some bottom
  | "random" => some random
  | _ => none

@[simp] theorem ofWord?_word (place : Place) : ofWord? place.word = some place := by
  cases place <;> rfl

theorem ofWord?_eq_some {written : String} {place : Place} :
    ofWord? written = some place ↔ place.word = written := by
  constructor
  · intro found
    unfold ofWord? at found
    split at found <;> cases found <;> rfl
  · rintro rfl
    exact ofWord?_word place

end Place

def Source.shown : Source → String
  | pipe => "pipe"
  | board => "board"
  | column name => s!"column '{name}'"

namespace OrderKind

def word : OrderKind → String
  | shuffle => "shuffle"
  | sort => "sort"
  | reverse => "reverse"

def ofWord? : String → Option OrderKind
  | "shuffle" => some shuffle
  | "sort" => some sort
  | "reverse" => some reverse
  | _ => none

@[simp] theorem ofWord?_word (kind : OrderKind) : ofWord? kind.word = some kind := by
  cases kind <;> rfl

theorem ofWord?_eq_some {written : String} {kind : OrderKind} :
    ofWord? written = some kind ↔ kind.word = written := by
  constructor
  · intro found
    unfold ofWord? at found
    split at found <;> cases found <;> rfl
  · rintro rfl
    exact ofWord?_word kind

end OrderKind

namespace FilterBy

def word : FilterBy → String
  | name => "name"
  | label => "label"

def ofWord? : String → Option FilterBy
  | "name" => some name
  | "label" => some label
  | _ => none

@[simp] theorem ofWord?_word (criterion : FilterBy) : ofWord? criterion.word = some criterion := by
  cases criterion <;> rfl

theorem ofWord?_eq_some {written : String} {criterion : FilterBy} :
    ofWord? written = some criterion ↔ criterion.word = written := by
  constructor
  · intro found
    unfold ofWord? at found
    split at found <;> cases found <;> rfl
  · rintro rfl
    exact ofWord?_word criterion

end FilterBy

def Body.references : Body → List String
  | group steps | flow steps => steps
  | _ => []

@[simp] theorem Body.references_group (steps : List String) :
    (Body.group steps).references = steps := rfl

@[simp] theorem Body.references_flow (steps : List String) :
    (Body.flow steps).references = steps := rfl

end Kanban
