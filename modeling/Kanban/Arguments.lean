import Kanban.Text.Blank
import Kanban.Trouble

namespace Kanban

abbrev Arguments := List (String × Tree)

namespace Arguments

def value? (arguments : Arguments) (name : String) : Option Tree :=
  (arguments.find? (·.1 == name)).map (·.2)

def put (arguments : Arguments) (name : String) (value : Tree) : Arguments :=
  match arguments with
  | [] => [(name, value)]
  | (other, old) :: rest =>
      if other == name then (other, value) :: rest else (other, old) :: put rest name value

def ofPairs (pairs : List (String × Tree)) : Arguments :=
  pairs.foldl (fun arguments pair => arguments.put pair.1 pair.2) []

def names (arguments : Arguments) : List String :=
  arguments.map (·.1)

@[simp] theorem value?_nil (name : String) : value? [] name = none := rfl

theorem value?_put (arguments : Arguments) (name other : String) (value : Tree) :
    (arguments.put name value).value? other =
      if name = other then some value else arguments.value? other := by
  induction arguments with
  | nil => by_cases h : name = other <;> simp [put, value?, h]
  | cons entry rest ih =>
      obtain ⟨key, old⟩ := entry
      by_cases atKey : key = name
      · subst atKey
        by_cases h : key = other <;> simp [put, value?, h]
      · simp only [put, beq_iff_eq, atKey, if_false]
        by_cases h : key = other
        · subst h
          simp [value?, Ne.symm atKey]
        · have step := ih
          unfold value? at step ⊢
          simp only [List.find?_cons, beq_eq_false_iff_ne.mpr h]
          exact step

/-- The name and the value of a word, both trimmed, cut at the first equals sign. -/
def splitWord (word : String) : Except ArgumentTrouble (String × String) :=
  let chars := word.toList
  if '=' ∈ chars then
    let name := Text.trim (chars.takeWhile (· != '='))
    let value := Text.trim ((chars.dropWhile (· != '=')).drop 1)
    if name.isEmpty then
      .error (.nameless word)
    else
      .ok (String.ofList name, String.ofList value)
  else
    .error (.shapeless word)

/-- Reads the words in order, so the first word that is no argument is the one to blame. -/
def addWords (arguments : Arguments) : List String → Except ArgumentTrouble Arguments
  | [] => .ok arguments
  | word :: rest =>
      match splitWord word with
      | .ok (name, value) => addWords (arguments.put name (.text value)) rest
      | .error trouble => .error trouble

def ofWords (words : List String) : Except ArgumentTrouble Arguments :=
  addWords [] words

@[simp] theorem ofWords_nil : ofWords [] = .ok [] := rfl

def literal (arguments : Arguments) : String :=
  (Tree.map (arguments.map fun (name, value) => (.text name, value))).literal

end Arguments

end Kanban
