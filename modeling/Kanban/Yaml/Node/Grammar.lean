import Kanban.Yaml.Node
import Kanban.Yaml.Token.Stream

/-!
The document that a stream of tokens writes.  An alias stands for the node that its anchor names.
The name of a list or a mapping is known as soon as it starts, so an alias within it may name it,
and the node then holds itself.

Reading is open: how to read a node is said by `node` in terms of how to read the nodes within it,
and `read` closes the circle for a number of levels.
-/
namespace Kanban.Yaml

/-- `anchors` are the names of nodes. -/
structure Reading where
  stream : Stream
  nodes : Array Node := #[]
  anchors : List (String × NodeId) := []

/-- Where a node stands: within brackets; within the brackets of a list, as a mapping of one entry
that has no brackets of its own; in a block; or behind a key, where the items of a list need no
indentation of their own. -/
inductive Surroundings where
  | flow
  | pair
  | block
  | entry
  deriving DecidableEq, Repr

namespace Node

abbrev Read := StateT Reading (Except Fault)

abbrev Inner := Surroundings → Read NodeId

def onStream {α : Type} (step : Stream.Step α) : Read α := fun ⟨stream, nodes, anchors⟩ => do
  let (found, stream) ← step stream
  return (found, ⟨stream, nodes, anchors⟩)

def fail {α : Type} (flaw : Flaw) : Read α := fun reading =>
  .error ⟨flaw, reading.stream.tokens[reading.stream.taken]?.map (·.place)⟩

def peek : Read (Option Token) := do
  return (← onStream Stream.next?).map (·.token)

def skip : Read Unit :=
  onStream Stream.take

def accept (token : Token) : Read Bool := do
  if (← peek) = some token then
    skip
    return true
  else
    return false

def nextIsOneOf (tokens : List Token) : Read Bool := do
  return (← peek).any tokens.contains

def collect {α : Type} (step : Read (Option α)) : (fuel : Nat) → (found : List α) → Read (List α)
  | 0, found => return found.reverse
  | fuel + 1, found => do
      match ← step with
      | some next => collect step fuel (next :: found)
      | none => return found.reverse

def every {α : Type} (step : Read (Option α)) : Read (List α) := do
  collect step (← get).stream.mostTokens []

/-- Adds a node, under a name if it has one; a name is given once. -/
def add (name : Option String) (node : Node) : Read NodeId := do
  let ⟨stream, nodes, anchors⟩ ← get
  let id := nodes.size
  match name with
  | none => set (⟨stream, nodes.push node, anchors⟩ : Reading)
  | some name =>
      if anchors.any (·.1 == name) then
        fail (.anchorTwice name)
      set (⟨stream, nodes.push node, (name, id) :: anchors⟩ : Reading)
  return id

def put (id : NodeId) (node : Node) : Read Unit :=
  modify fun reading => { reading with nodes := reading.nodes.setIfInBounds id node }

def named (name : String) : Read NodeId := do
  match (← get).anchors.find? (·.1 == name) with
  | some (_, id) => return id
  | none => fail (.unknownAnchor name)

def takeAnchor : Read (Option String) := do
  match ← peek with
  | some (.anchor name) =>
      skip
      return some name
  | _ => return none

def takeTag : Read (Option TagName) := do
  match ← peek with
  | some (.tag name) =>
      skip
      return some name
  | _ => return none

def fullTag : Option TagName → Read (Option String)
  | none => return none
  | some name =>
      match name.full? with
      | some full => return some full
      | none => fail .unknownHandle

structure Properties where
  anchor : Option String
  tag : Option String

def Properties.isEmpty (properties : Properties) : Bool :=
  properties.anchor.isNone && properties.tag.isNone

def takeProperties : Read Properties := do
  match ← takeAnchor with
  | some anchor =>
      let tag ← takeTag
      return ⟨some anchor, ← fullTag tag⟩
  | none =>
      let tag ← takeTag
      let anchor ← if tag.isSome then takeAnchor else pure none
      return ⟨anchor, ← fullTag tag⟩

def isOpen (tag : Option String) : Bool :=
  tag.all (· == TagName.unspecific)

/-- The type of a scalar: what its tag says, or what its form shows if it is plain. -/
def scalarTag (tag : Option String) (text : String) (plain : Bool) : Tag :=
  match tag with
  | none => if plain then Tag.ofPlain text else .text
  | some name => if isOpen tag then Tag.ofPlain text else Tag.ofName name

def collectionTag (tag : Option String) (usual : Tag) : Tag :=
  match tag with
  | none => usual
  | some name => if isOpen tag then usual else Tag.ofName name

def listOf (properties : Properties) (items : Read (List NodeId)) : Read NodeId := do
  let tag := collectionTag properties.tag .list
  let id ← add properties.anchor (.list tag [])
  put id (.list tag (← items))
  return id

def mapOf (properties : Properties) (entries : Read (List (NodeId × NodeId))) : Read NodeId := do
  let tag := collectionTag properties.tag .map
  let id ← add properties.anchor (.map tag [])
  put id (.map tag (← entries))
  return id

/-- Reads a node, or none where one of the given tokens shows that it lacks. -/
def readBefore (inner : Inner) (stops : List Token) (surroundings : Surroundings) :
    Read NodeId := do
  if ← nextIsOneOf stops then
    add none absent
  else
    inner surroundings

def valueBefore (inner : Inner) (stops : List Token) (surroundings : Surroundings) :
    Read NodeId := do
  if ← accept .value then
    readBefore inner stops surroundings
  else
    add none absent

def entryBefore (inner : Inner) (stops : List Token) (surroundings : Surroundings) :
    Read (NodeId × NodeId) := do
  let key ← readBefore inner (.value :: stops) surroundings
  return (key, ← valueBefore inner stops surroundings)

def itemOfBlock? (inner : Inner) : Read (Option NodeId) := do
  if ← accept .item then
    return some (← readBefore inner [.item, .blockEnd] .block)
  else if ← accept .blockEnd then
    return none
  else
    fail .blockUnfinished

def itemOfLoose? (inner : Inner) : Read (Option NodeId) := do
  if ← accept .item then
    return some (← readBefore inner [.item, .key, .value, .blockEnd] .block)
  else
    return none

def entryOfBlock? (inner : Inner) : Read (Option (NodeId × NodeId)) := do
  if ← accept .key then
    let key ← readBefore inner [.key, .value, .blockEnd] .entry
    return some (key, ← valueBefore inner [.key, .value, .blockEnd] .entry)
  else if ← accept .blockEnd then
    return none
  else
    fail .blockUnfinished

/-- Takes the comma before the next item of a bracket, or sees that the bracket closes. -/
def separator (close : Token) : Read Unit := do
  if !(← nextIsOneOf [close]) then
    if !(← accept .comma) then
      fail .separatorExpected

/-- An item within brackets; one that has a key is a mapping of one entry. -/
def itemOfFlow? (inner : Inner) : Read (Option NodeId) := do
  if ← accept .flowListEnd then
    return none
  else
    let item ← inner (if ← nextIsOneOf [.key] then .pair else .flow)
    separator .flowListEnd
    return some item

def entryOfFlow? (inner : Inner) : Read (Option (NodeId × NodeId)) := do
  if ← accept .flowMapEnd then
    return none
  else
    let entry ←
      if ← accept .key then
        entryBefore inner [.comma, .flowMapEnd] .flow
      else do
        let key ← inner .flow
        pure (key, ← add none absent)
    separator .flowMapEnd
    return some entry

/-- A mapping of one entry within the brackets of a list. -/
def pair (inner : Inner) : Read NodeId :=
  mapOf ⟨none, none⟩ do
    skip
    return [← entryBefore inner [.comma, .flowListEnd] .flow]

/-- Reads what follows the anchor and the tag of a node, one of which suffices for an empty one. -/
def content (inner : Inner) (surroundings : Surroundings) (properties : Properties) :
    Read NodeId := do
  let next ← peek
  match next with
  | some (.scalar text plain) =>
      skip
      add properties.anchor (.scalar (scalarTag properties.tag text plain) text)
  | some .flowListStart => listOf properties (skip *> every (itemOfFlow? inner))
  | some .flowMapStart => mapOf properties (skip *> every (entryOfFlow? inner))
  | _ =>
      if next = some .item ∧ surroundings = .entry then
        listOf properties (every (itemOfLoose? inner))
      else if next = some .listStart ∧ surroundings ≠ .flow then
        listOf properties (skip *> every (itemOfBlock? inner))
      else if next = some .mapStart ∧ surroundings ≠ .flow then
        mapOf properties (skip *> every (entryOfBlock? inner))
      else if properties.isEmpty then
        fail .contentExpected
      else
        add properties.anchor (.scalar (scalarTag properties.tag "" true) "")

def node (inner : Inner) (surroundings : Surroundings) : Read NodeId := do
  match ← peek with
  | some (.alias name) =>
      skip
      named name
  | _ =>
      if surroundings = .pair then
        pair inner
      else
        content inner surroundings (← takeProperties)

def read : Nat → Inner
  | 0, _ => fail .nestedTooDeep
  | levels + 1, surroundings => node (read levels) surroundings

/-- Lists and mappings may not lie deeper within each other. -/
def deepest : Nat :=
  488

/-- Markers of a document's end may be repeated. -/
def endMarker? : Read (Option Unit) := do
  return if ← accept .documentEnd then some () else none

def document? : Read (Option NodeId) := do
  if (← peek).isNone then
    return none
  else
    let root ←
      if ← accept .documentStart then do
        if (← peek).isNone then
          add none absent
        else
          readBefore (read deepest) [.documentStart, .documentEnd] .block
      else
        read deepest .block
    let _ ← every endMarker?
    if (← peek).isSome then
      fail .secondDocument
    return some root

end Node

def Document.ofSource? (source : Source) : Except Fault (Option Document) := do
  let (root, reading) ← Node.document?.run { stream := ← Stream.ofSource source }
  return root.map fun root => { nodes := reading.nodes, root }

end Kanban.Yaml
