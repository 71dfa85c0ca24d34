import Kanban.Task
import Kanban.Task.Field
import Kanban.Template

namespace Kanban

def Place.ofTree (value : Tree) : Except Failure Place := do
  Field.choice Place.ofWord? (← Field.word value)

def Source.ofTree (node : Tree) : Except Failure Source := do
  match ← Field.tag node with
  | "pipe" => return .pipe
  | "board" => return .board
  | "column" => return .column (← Field.text (← Field.required node "source"))
  | other => throw (.ofDefinition (.unknownTag other))

def Target.ofTree (node : Tree) : Except Failure Target := do
  let column ← Field.text (← Field.required node "column")
  let place ← Field.withDefault node "place" Place.ofTree .top
  return { column, place }

def CardInfo.ofTree (node : Tree) : Except Failure CardInfo := do
  let name ← Field.text (← Field.required node "name")
  let description ← Field.withDefault node "desc" Field.text ""
  return { name, description }

def Action.ofTree (params : Tree) : Except Failure Action := do
  match ← Field.tag params with
  | "print" => return .print
  | "copy" => return .copy (← Target.ofTree (← Field.required params "to"))
  | "move" => return .move (← Target.ofTree (← Field.required params "to"))
  | "add" => do
      let target ← Target.ofTree (← Field.required params "to")
      let card ← CardInfo.ofTree (← Field.required params "card")
      return .add target card
  | other => throw (.ofDefinition (.unknownTag other))

namespace Body

def takeOfTree (params : Tree) : Except Failure Body := do
  let source ← Field.withDefault params "from" Source.ofTree .pipe
  let place ← Field.withDefault params "place" Place.ofTree .top
  let size ← Field.withDefault params "size" Field.size 0
  return .take source size place

def orderOfTree (params : Tree) : Except Failure Body := do
  let source ← Field.withDefault params "from" Source.ofTree .pipe
  let kind ← Field.choice OrderKind.ofWord? (← Field.tag params)
  return .order kind source

def filterOfTree (params : Tree) (caseSensitive : Bool) : Except Failure Body := do
  let by_ ← Field.withDefault params "by" Field.word "name"
  let criterion ← Field.choice FilterBy.ofWord? by_
  let value ← Field.text (← Field.required params "rhs")
  let sensitive ← Field.withDefault params "case" Field.flag caseSensitive
  return .filter criterion value sensitive

/-- Reads a definition without placeholders.  A filter that does not say whether case matters
follows `caseSensitive`. -/
def ofTree (node : Tree) (caseSensitive : Bool) : Except Failure Body := do
  let type ← Field.tag node
  let params := Field.withDefault node "params" .ok (.map [])
  match type with
  | "take" => takeOfTree (← params)
  | "order" => orderOfTree (← params)
  | "filter" => filterOfTree (← params) caseSensitive
  | "action" => return .act (← Action.ofTree (← params))
  | "group" => return .group (← Field.steps (← Field.required node "params"))
  | "flow" => return .flow (← Field.steps (← Field.required node "params"))
  | other => throw (.ofDefinition (.unknownTag other))

/-- Fills the placeholders of a definition and reads it.  Filling one without end would not end. -/
def compile (node : Tree) (arguments : Arguments) (caseSensitive : Bool := false) :
    Except Failure Body :=
  if node.isFinite then
    ofTree (Template.resolve arguments node) caseSensitive
  else
    .error (.misuse .endless)

theorem compile_of_finite {node : Tree} (finite : node.isFinite = true) (arguments : Arguments)
    (caseSensitive : Bool) :
    compile node arguments caseSensitive =
      ofTree (Template.resolve arguments node) caseSensitive :=
  if_pos finite

theorem compile_ok {node : Tree} {arguments : Arguments} {caseSensitive : Bool} {body : Body} :
    compile node arguments caseSensitive = .ok body ↔
      node.isFinite = true ∧ ofTree (Template.resolve arguments node) caseSensitive = .ok body := by
  unfold compile
  split
  next finite => simp [finite]
  next endless => simp [endless]

end Body

end Kanban
