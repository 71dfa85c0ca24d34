import Kanban.Yaml.Tag

namespace Kanban.Yaml

abbrev NodeId := Nat

inductive Node where
  | scalar (tag : Tag) (text : String)
  | list (tag : Tag) (items : List NodeId)
  | map (tag : Tag) (entries : List (NodeId × NodeId))
  deriving Repr

def Node.absent : Node :=
  .scalar .null ""

def Node.tag : Node → Tag
  | scalar tag _ => tag
  | list tag _ => tag
  | map tag _ => tag

/-- A document is its nodes in the order of their numbers, and one of them that holds the others. -/
structure Document where
  nodes : Array Node
  root : NodeId
  deriving Repr

end Kanban.Yaml
