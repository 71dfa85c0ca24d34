import Kanban.Program
import Mathlib.Logic.Relation

namespace Kanban.Program

def references (program : Program) (name : String) : List String :=
  match program.body? name with
  | some body => body.references
  | none => []

theorem references_of_body {program : Program} {name : String} {body : Body}
    (found : program.body? name = some body) : program.references name = body.references := by
  simp [references, found]

theorem mem_tasks_of_reference {program : Program} {name next : String}
    (reference : next ∈ program.references name) :
    ∃ body, (name, body) ∈ program.tasks ∧ next ∈ body.references := by
  unfold references at reference
  split at reference
  next body found => exact ⟨body, mem_tasks found, reference⟩
  next => cases reference

inductive Chain (program : Program) : (first : String) → (names : List String) → Prop where
  | single (name : String) : Chain program name [name]
  | step {name next : String} {rest : List String} :
      next ∈ program.references name → Chain program next rest →
      Chain program name (name :: rest)

def Reaches (program : Program) : String → String → Prop :=
  Relation.ReflTransGen fun name next => next ∈ program.references name

theorem Reaches.of_reference {program : Program} {name next reached : String}
    (reference : next ∈ program.references name) (onward : program.Reaches next reached) :
    program.Reaches name reached :=
  Relation.ReflTransGen.head reference onward

end Kanban.Program
