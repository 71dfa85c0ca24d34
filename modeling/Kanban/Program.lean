import Kanban.Event
import Kanban.Task.Definition

/-!
Programs: the name of a board and a table of named tasks.  A document is a mapping whose entry
`board` names the board and whose other entries define tasks; it is read once, after its arguments
are known, so a name may be a placeholder too.
-/
namespace Kanban

/-- `unfilled` are the placeholders that no argument filled, in ascending order. -/
structure Program where
  board : String
  tasks : List (String × Body)
  unfilled : List String := []

namespace Program

def boardKey : String :=
  "board"

def body? (program : Program) (name : String) : Option Body :=
  (program.tasks.find? (·.1 == name)).map (·.2)

def tableNames (program : Program) : List String :=
  program.tasks.map (·.1)

def names (program : Program) : List String :=
  program.tableNames.mergeSort Text.atMost

def size (program : Program) : Nat :=
  program.tasks.length

/-- Puts a task into the table, in the place of its name if it is there. -/
def putTask (tasks : List (String × Body)) (name : String) (body : Body) : List (String × Body) :=
  match tasks with
  | [] => [(name, body)]
  | (other, old) :: rest =>
      if other == name then (other, body) :: rest else (other, old) :: putTask rest name body

/-- Fills the names of the entries; two entries must not come to have the same one. -/
def fillKeys (arguments : Arguments) (done : List (Tree × Tree)) :
    List (Tree × Tree) → Except Failure (List (Tree × Tree))
  | [] => .ok done
  | (key, definition) :: rest =>
      let filled := Template.resolve arguments key
      if done.any (fun entry => entry.1.same filled) then
        .error (.ofDefinition (.taskTwice filled key))
      else
        fillKeys arguments (done ++ [(filled, definition)]) rest

/-- Only a value that has an end can be filled. -/
def finite (value : Tree) : Except Failure Tree :=
  if value.isFinite then .ok value else .error (.misuse .endless)

/-- Reads the definitions in order, passing over the entry that names the board. -/
def readTasks (arguments : Arguments) (caseSensitive : Bool) (tasks : List (String × Body)) :
    List (Tree × Tree) → Except Failure (List (String × Body))
  | [] => .ok tasks
  | (key, definition) :: rest => do
      let name ← Field.text key
      if name = boardKey then
        readTasks arguments caseSensitive tasks rest
      else
        let body ← Body.compile definition arguments caseSensitive
        readTasks arguments caseSensitive (putTask tasks name body) rest

def leftover (arguments : Arguments) (entries : List (Tree × Tree)) : List String :=
  Text.sortedOnce
    (Template.itemPlaceholders (Template.resolveItems arguments (entries.map (·.2))))

def ofDocument (document : Tree) (arguments : Arguments) (caseSensitive : Bool := false) :
    Except Failure Program :=
  match document.opened with
  | .map written => do
      let entries ← fillKeys arguments [] written
      let boardValue ← finite (← Field.required (.map entries) boardKey)
      let board ← Field.text (Template.resolve arguments boardValue)
      let tasks ← readTasks arguments caseSensitive [] entries
      return { board, tasks, unfilled := leftover arguments entries }
  | _ => .error (.ofDefinition (.noDocument document))

def notes (program : Program) : List Event :=
  let unfilled :=
    if program.unfilled.isEmpty then
      []
    else
      [.debug s!"Unresolved placeholders left in tasks: {Tree.textsLiteral program.unfilled}"]
  unfilled ++ [.debug s!"Compiled {program.size} tasks for board {program.board}"]

def literal (program : Program) : String :=
  s!"TaskContext(board={Text.quoted program.board}, tasks={Tree.textsLiteral program.names})"

theorem mem_tasks {program : Program} {name : String} {body : Body}
    (found : program.body? name = some body) : (name, body) ∈ program.tasks := by
  obtain ⟨⟨key, value⟩, located, rfl⟩ := Option.map_eq_some_iff.mp found
  have equal := List.find?_some located
  simp only [beq_iff_eq] at equal
  subst equal
  exact List.mem_of_find?_eq_some located

theorem body?_mem {program : Program} {name : String} {body : Body}
    (found : program.body? name = some body) : name ∈ program.tableNames :=
  List.mem_map.mpr ⟨_, mem_tasks found, rfl⟩

end Program

end Kanban
