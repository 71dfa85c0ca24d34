import Kanban.Yaml.Node
import Kanban.Yaml.Tag.Value

/-!
What the nodes of a document stand for.  A scalar is a value at once.  A list or a mapping is first
made empty and filled when its turn comes, those that were made earlier first, so a node that holds
itself needs no special care; what it holds is known by number.

Before a mapping is filled, the entries of the mappings merged into it are put in front of its own.
Of two entries with the same key the later one gives the value and the earlier one the place.
-/
namespace Kanban.Yaml

/-- An entry of a mapping: the number and the value of its key, and the number of its value. -/
structure Entry where
  keyId : NodeId
  key : Tree
  valueId : NodeId

inductive Object where
  | value (tree : Tree)
  | list (items : List NodeId)
  | map (entries : List Entry)

/-- The objects of a document by the numbers of their nodes; what is not part of any value has
none. -/
abbrev Objects := Array (Option Object)

/-- `waiting` are the lists and mappings that are made but not filled, the latest first. -/
structure Building where
  nodes : Array Node
  objects : Objects
  waiting : List NodeId := []

namespace Building

abbrev Build := StateT Building (Except Refusal)

def fail {α : Type} (flaw : Flaw) : Build α :=
  throw (.fault { flaw })

def entriesOf (nodes : Array Node) (id : NodeId) : List (NodeId × NodeId) :=
  match nodes[id]? with
  | some (.map _ entries) => entries
  | _ => []

def hasTag (nodes : Array Node) (tag : Tag) (id : NodeId) : Bool :=
  (nodes[id]?.map (·.tag)) == some tag

def textOf (nodes : Array Node) : (fuel : Nat) → NodeId → Except Refusal String
  | 0, _ => .error (.misuse .endless)
  | fuel + 1, id =>
      match nodes[id]? with
      | some (.scalar _ text) => .ok text
      | _ =>
          match (entriesOf nodes id).find? fun entry => hasTag nodes .default entry.1 with
          | some entry => textOf nodes fuel entry.2
          | none => refuse .wrongContent

/-- The value of a node that is no list and no mapping by its tag. -/
def valueOf (nodes : Array Node) (id : NodeId) (node : Node) : Except Refusal Tree := do
  if [Tag.merge, .default, .unknown].contains node.tag then
    refuse .unknownType
  let text ← textOf nodes (nodes.size + 1) id
  match node.tag, node with
  | .date, .map .. => throw (.misuse .wrongKind)
  | tag, _ => tag.read text

def place (id : NodeId) (object : Object) : Build Unit :=
  modify fun building =>
    { building with objects := building.objects.setIfInBounds id (some object) }

def await (id : NodeId) : Build Unit :=
  modify fun building => { building with waiting := id :: building.waiting }

def make (id : NodeId) : Build Unit := do
  let building ← get
  match building.objects[id]?, building.nodes[id]? with
  | some none, some node =>
      match node.tag with
      | .list =>
          place id (.list [])
          await id
      | .map =>
          place id (.map [])
          await id
      | _ => place id (.value (← valueOf building.nodes id node))
  | _, _ => return

/-- The first entry whose key has a tag, and the entries without it. -/
def splitAt? (nodes : Array Node) (tag : Tag) (entries : List (NodeId × NodeId)) :
    Option (NodeId × List (NodeId × NodeId)) :=
  match entries.span fun entry => !hasTag nodes tag entry.1 with
  | (before, entry :: after) => some (entry.2, before ++ after)
  | _ => none

def setEntries (id : NodeId) (entries : List (NodeId × NodeId)) : Build Unit :=
  modify fun building =>
    match building.nodes[id]? with
    | some (.map tag _) =>
        { building with nodes := building.nodes.setIfInBounds id (.map tag entries) }
    | _ => building

/-- Takes the first entry to be merged out of a mapping and gives its value. -/
def takeMerge? (id : NodeId) : Build (Option NodeId) := do
  let nodes := (← get).nodes
  match splitAt? nodes .merge (entriesOf nodes id) with
  | some (value, others) =>
      setEntries id others
      return some value
  | none => return none

def isMapping (nodes : Array Node) (id : NodeId) : Bool :=
  match nodes[id]? with
  | some (.map ..) => true
  | _ => false

/-- A key that only marks a default is a text in a mapping that is filled. -/
def unmark (nodes : Array Node) (id : NodeId) : Array Node :=
  match nodes[id]? with
  | some (.scalar .default text) => nodes.setIfInBounds id (.scalar .text text)
  | some (.list .default items) => nodes.setIfInBounds id (.list .text items)
  | some (.map .default entries) => nodes.setIfInBounds id (.map .text entries)
  | _ => nodes

def prepend (id : NodeId) (merged : List (NodeId × NodeId)) : Build Unit := do
  setEntries id (merged ++ entriesOf (← get).nodes id)
  modify fun building =>
    { building with
      nodes := (entriesOf building.nodes id).foldl (fun nodes entry => unmark nodes entry.1)
        building.nodes }

/-- The mappings that a merged value names: itself, or the items of a list. -/
def mergeable (id : NodeId) : Build (List NodeId) := do
  match (← get).nodes[id]? with
  | some (.map ..) => return [id]
  | some (.list _ items) => return items
  | _ => fail .mergeValue

/-- Gives a mapping the entries of the mappings merged into it, which are given theirs before.  Of
the items of a list an earlier one outweighs a later one. -/
def flatten : (fuel : Nat) → NodeId → (merged : List (NodeId × NodeId)) → Build Unit
  | 0, id, merged => prepend id merged
  | fuel + 1, id, merged => do
      match ← takeMerge? id with
      | none => prepend id merged
      | some value =>
          let found ← (← mergeable value).mapM fun source => do
            if !isMapping (← get).nodes source then
              fail .mergeValue
            flatten fuel source []
            return entriesOf (← get).nodes source
          flatten fuel id (merged ++ found.reverse.flatten)

/-- The number of entries to be merged; each of them is taken once. -/
def countMerges (nodes : Array Node) : Nat :=
  nodes.foldl
    (fun count node =>
      match node with
      | .map _ entries => count + entries.countP fun entry => hasTag nodes .merge entry.1
      | _ => count)
    0

/-- Puts a value under a key, in the place of the key if it is there. -/
def putEntry (entries : List Entry) (entry : Entry) : List Entry :=
  match entries with
  | [] => [entry]
  | other :: rest =>
      if other.keyId == entry.keyId || other.key.same entry.key then
        { other with valueId := entry.valueId } :: rest
      else
        other :: putEntry rest entry

/-- Makes the key and the value of an entry; a list or a mapping cannot be a key. -/
def makeEntry (entry : NodeId × NodeId) : Build Entry := do
  make entry.1
  match (← get).objects[entry.1]? with
  | some (some (.value key)) =>
      make entry.2
      return ⟨entry.1, key, entry.2⟩
  | _ => fail .unusableKey

def fill (id : NodeId) : Build Unit := do
  let nodes := (← get).nodes
  match nodes[id]? with
  | some (.list .list items) =>
      items.forM make
      place id (.list items)
  | some (.map .map _) => do
      flatten (countMerges nodes + 1) id []
      let entries ← (entriesOf (← get).nodes id).mapM makeEntry
      place id (.map (entries.foldl putEntry []))
  | _ => fail .wrongContent

/-- Fills what is made, and what is made by that, until nothing is waiting. -/
def fillAll : (fuel : Nat) → Build Unit
  | 0 => return
  | fuel + 1 => do
      let building ← get
      if !building.waiting.isEmpty then
        set { building with waiting := [] }
        building.waiting.reverse.forM fill
        fillAll fuel

end Building

def Document.objects (document : Document) : Except Refusal Objects := do
  let nodes := document.nodes
  let start : Building := { nodes, objects := Array.replicate nodes.size none }
  let (_, building) ← (Building.make document.root *> Building.fillAll (nodes.size + 1)).run start
  return building.objects

end Kanban.Yaml
