import Kanban.Tree.Written
import Kanban.Yaml.Object

/-!
Objects as trees.  An object that leads back to itself, or holds one that does, has no finite tree;
it is shown with dots where it would start over, and unfolded as far as anybody looks.
-/
namespace Kanban.Yaml

namespace Objects

/-- What is known of the tree of an object. -/
inductive Progress where
  | unseen
  | underWay
  | settled (tree : Option Tree)

abbrev Survey := StateM (Array Progress)

def record (id : NodeId) (progress : Progress) : Survey Unit :=
  modify (·.setIfInBounds id progress)

def allSome {α : Type} (found : List (Option α)) : Option (List α) :=
  found.mapM fun item => item

def tree? (objects : Objects) : (fuel : Nat) → NodeId → Survey (Option Tree)
  | 0, _ => return none
  | fuel + 1, id => do
      match (← get)[id]? with
      | some (.settled tree) => return tree
      | some .underWay => return none
      | _ =>
          record id .underWay
          let tree ←
            match objects[id]? with
            | some (some (.value tree)) => pure (some tree)
            | some (some (.list items)) => do
                let found ← items.mapM (tree? objects fuel)
                pure ((allSome found).map Tree.list)
            | some (some (.map entries)) => do
                let found ← entries.mapM fun entry => do
                  return (← tree? objects fuel entry.valueId).map (entry.key, ·)
                pure ((allSome found).map Tree.map)
            | _ => pure none
          record id (.settled tree)
          return tree

/-- How an object is written that lies within others; one of those is not written again. -/
def literal (objects : Objects) : (fuel : Nat) → (around : List NodeId) → NodeId → String
  | 0, _, _ => ""
  | fuel + 1, around, id =>
      let inner := literal objects fuel (id :: around)
      match objects[id]? with
      | some (some (.value tree)) => tree.literal
      | some (some (.list items)) =>
          if around.contains id then "[...]"
          else "[" ++ ", ".intercalate (items.map inner) ++ "]"
      | some (some (.map entries)) =>
          if around.contains id then "\x7b...\x7d"
          else
            let written := entries.map fun entry => entry.key.literal ++ ": " ++ inner entry.valueId
            "\x7b" ++ ", ".intercalate written ++ "\x7d"
      | _ => ""

def opened (objects : Objects) (inner : NodeId → Tree) (id : NodeId) : Tree :=
  match objects[id]? with
  | some (some (.value tree)) => tree
  | some (some (.list items)) => .list (items.map inner)
  | some (some (.map entries)) => .map (entries.map fun entry => (entry.key, inner entry.valueId))
  | _ => .null

/-- Unfolds an object on so many levels where it has no finite tree. -/
def unfold (objects : Objects) (trees : Array Progress) : (levels : Nat) → NodeId → Tree
  | levels, id =>
      match trees[id]? with
      | some (.settled (some tree)) => tree
      | _ =>
          let written := literal objects (objects.size + 1) [] id
          match levels with
          | 0 => .endless written .null
          | levels + 1 => .endless written (opened objects (unfold objects trees levels) id)

/-- Nobody looks at more levels of a document than its sections, their entries and the items of
these. -/
def levels : Nat :=
  4

def toTree (objects : Objects) (root : NodeId) : Tree :=
  let unseen := Array.replicate objects.size Progress.unseen
  match (tree? objects (objects.size + 1) root).run unseen with
  | (some tree, _) => tree
  | (none, trees) => unfold objects trees levels root

end Objects

end Kanban.Yaml
