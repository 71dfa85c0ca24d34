import Kanban.Task.Definition
import Mathlib.Data.List.Forall2

/-!
The grammar of definitions: which tree says what.  A field is there if it has a value and the value
is not null.  How long a numeral may be is left to the limits under which a definition is read.
-/
namespace Kanban.Grammar

/-- The whole numbers that may stand for a text, the rows of digits that may stand for a size, and
the mappings that may do without a field. -/
structure Limits where
  spells : Int → Prop
  counts : List Char → Prop
  lacks : Tree → Prop

def Limits.none : Limits where
  spells _ := True
  counts _ := True
  lacks _ := True

/-- Numerals that can be read and written.  What a mapping lacks is told by writing the mapping
out, so every number in it must be writable, at whatever depth. -/
def Limits.ofNumerals : Limits where
  spells number := Number.isWritable number = true
  counts digits := digits.length ≤ Number.mostDigits
  lacks node := node.isWritable = true

inductive Has : Tree → String → Tree → Prop
  | field {entries : List (Tree × Tree)} {name : String} {value : Tree} :
      Tree.entry? entries name = some value → value ≠ .null → Has (.map entries) name value

inductive Lacks : Tree → String → Prop
  | missing {entries : List (Tree × Tree)} {name : String} :
      Tree.entry? entries name = none → Lacks (.map entries) name
  | null {entries : List (Tree × Tree)} {name : String} :
      Tree.entry? entries name = some .null → Lacks (.map entries) name

theorem Has.here {entries : List (Tree × Tree)} {name : String} {value : Tree}
    (notNull : value ≠ .null) : Has (.map ((.text name, value) :: entries)) name value := by
  refine .field ?_ notNull
  simp [Tree.entry?]

theorem Has.later {entries : List (Tree × Tree)} {name other : String} {value first : Tree}
    (differ : other ≠ name) (found : Has (.map entries) name value) :
    Has (.map ((.text other, first) :: entries)) name value := by
  obtain ⟨located, notNull⟩ := found
  refine .field ?_ notNull
  simpa [Tree.entry?, differ] using located

theorem Lacks.nil (name : String) : Lacks (.map []) name :=
  .missing rfl

theorem Lacks.later {entries : List (Tree × Tree)} {name other : String} {first : Tree}
    (differ : other ≠ name) (lacking : Lacks (.map entries) name) :
    Lacks (.map ((.text other, first) :: entries)) name := by
  have onward : Tree.entry? ((.text other, first) :: entries) name =
      Tree.entry? entries name := by
    simp [Tree.entry?, differ]
  cases lacking with
  | missing located => exact .missing (onward.trans located)
  | null located => exact .null (onward.trans located)

theorem Has.unique {node value other : Tree} {name : String} (found : Has node name value)
    (again : Has node name other) : value = other := by
  obtain ⟨located, _⟩ := found
  obtain ⟨again, _⟩ := again
  exact Option.some.inj (located.symm.trans again)

theorem Lacks.not_has {node value : Tree} {name : String} (lacking : Lacks node name) :
    ¬ Has node name value := by
  rintro ⟨located, notNull⟩
  cases lacking with
  | missing none => simp [none] at located
  | null null => exact notNull (Option.some.inj (located.symm.trans null))

def Mandatory {α : Type} (form : Tree → α → Prop) (node : Tree) (name : String) (value : α) :
    Prop :=
  ∃ tree, Has node name tree ∧ form tree value

section

variable (limits : Limits)

/-- A field that makes way for a default, but only by its own absence. -/
inductive Optional {α : Type} (form : Tree → α → Prop) (node : Tree) (name : String)
    (fallback : α) : α → Prop
  | given {value : α} : Mandatory form node name value → Optional form node name fallback value
  | absent : Lacks node name → limits.lacks node → Optional form node name fallback fallback

abbrev Tagged (node : Tree) (tag : String) : Prop :=
  Has node "type" (.text tag)

/-- Text is a text or a number; truth values are neither. -/
inductive Spells : Tree → String → Prop
  | text (written : String) : Spells (.text written) written
  | int {number : Int} : limits.spells number → Spells (.int number) (Tree.intText number)
  | real (number : Float) : Spells (.real number) (Tree.numberLayout.render number)
  | undefined : Spells .undefined Tree.numberLayout.undefined

/-- A size is a whole number from zero on, or a text of nothing but digits between blanks. -/
inductive Counts : Tree → Nat → Prop
  | int (number : Nat) : Counts (.int number) number
  | digits {written : String} {digits : List Char} :
      Text.trim written.toList = digits → digits ≠ [] → (∀ c ∈ digits, Text.isDigit c = true) →
        limits.counts digits → Counts (.text written) (Text.digitsValue digits)

/-- A truth value is one, or a text of its letters in either case between blanks. -/
inductive Flags : Tree → Bool → Prop
  | bool (value : Bool) : Flags (.bool value) value
  | letters {written : String} {value : Bool} :
      (Text.trim written.toList).map Char.toLower = (toString value).toList →
        Flags (.text written) value

inductive Words {α : Type} (word : α → String) : Tree → α → Prop
  | word (value : α) : Words word (.text (word value)) value

inductive Steps : Tree → List String → Prop
  | list {items : List Tree} {steps : List String} :
      List.Forall₂ (Spells limits) items steps → Steps (.list items) steps

inductive Sources : Tree → Source → Prop
  | pipe {node : Tree} : Tagged node "pipe" → Sources node .pipe
  | board {node : Tree} : Tagged node "board" → Sources node .board
  | column {node : Tree} {name : String} :
      Tagged node "column" → Mandatory (Spells limits) node "source" name →
        Sources node (.column name)

structure Targets (node : Tree) (target : Target) : Prop where
  column : Mandatory (Spells limits) node "column" target.column
  place : Optional limits (Words Place.word) node "place" .top target.place

structure Cards (node : Tree) (card : CardInfo) : Prop where
  name : Mandatory (Spells limits) node "name" card.name
  description : Optional limits (Spells limits) node "desc" "" card.description

inductive Acts (params : Tree) : Action → Prop
  | print : Tagged params "print" → Acts params .print
  | copy {target : Target} :
      Tagged params "copy" → Mandatory (Targets limits) params "to" target →
        Acts params (.copy target)
  | move {target : Target} :
      Tagged params "move" → Mandatory (Targets limits) params "to" target →
        Acts params (.move target)
  | add {target : Target} {card : CardInfo} :
      Tagged params "add" → Mandatory (Targets limits) params "to" target →
        Mandatory (Cards limits) params "card" card → Acts params (.add target card)

abbrev Params (node params : Tree) : Prop :=
  Optional limits Eq node "params" (.map []) params

inductive Defines (caseSensitive : Bool) (node : Tree) : Body → Prop
  | take {params : Tree} {source : Source} {size : Nat} {place : Place} :
      Tagged node "take" → Params limits node params →
        Optional limits (Sources limits) params "from" .pipe source →
        Optional limits (Words Place.word) params "place" .top place →
        Optional limits (Counts limits) params "size" 0 size →
        Defines caseSensitive node (.take source size place)
  | order {params : Tree} {kind : OrderKind} {source : Source} :
      Tagged node "order" → Params limits node params → Tagged params kind.word →
        Optional limits (Sources limits) params "from" .pipe source →
        Defines caseSensitive node (.order kind source)
  | filter {params : Tree} {criterion : FilterBy} {value : String} {sensitive : Bool} :
      Tagged node "filter" → Params limits node params →
        Optional limits (Words FilterBy.word) params "by" .name criterion →
        Mandatory (Spells limits) params "rhs" value →
        Optional limits Flags params "case" caseSensitive sensitive →
        Defines caseSensitive node (.filter criterion value sensitive)
  | act {params : Tree} {action : Action} :
      Tagged node "action" → Params limits node params → Acts limits params action →
        Defines caseSensitive node (.act action)
  | group {steps : List String} :
      Tagged node "group" → Mandatory (Steps limits) node "params" steps →
        Defines caseSensitive node (.group steps)
  | flow {steps : List String} :
      Tagged node "flow" → Mandatory (Steps limits) node "params" steps →
        Defines caseSensitive node (.flow steps)

end

/-! What is in the grammar under some limits is in it without them. -/

section

variable {limits : Limits} {node : Tree} {name : String}

theorem Mandatory.imp {α : Type} {form other : Tree → α → Prop}
    (weaker : ∀ tree value, form tree value → other tree value) {value : α}
    (given : Mandatory form node name value) : Mandatory other node name value := by
  obtain ⟨tree, found, formed⟩ := given
  exact ⟨tree, found, weaker tree value formed⟩

theorem Optional.unlimited {α : Type} {form other : Tree → α → Prop}
    (weaker : ∀ tree value, form tree value → other tree value) {fallback value : α}
    (read : Optional limits form node name fallback value) :
    Optional .none other node name fallback value := by
  cases read with
  | given given => exact .given (given.imp weaker)
  | absent lacking _ => exact .absent lacking trivial

theorem Spells.unlimited (tree : Tree) (text : String) (spelled : Spells limits tree text) :
    Spells .none tree text := by
  cases spelled with
  | text => exact .text text
  | int _ => exact .int trivial
  | real number => exact .real number
  | undefined => exact .undefined

theorem Counts.unlimited (tree : Tree) (size : Nat) (counted : Counts limits tree size) :
    Counts .none tree size := by
  cases counted with
  | int => exact .int size
  | digits trimmed given digits _ => exact .digits trimmed given digits trivial

theorem Steps.unlimited (tree : Tree) (steps : List String) (listed : Steps limits tree steps) :
    Steps .none tree steps := by
  obtain ⟨spelled⟩ := listed
  exact .list (spelled.imp Spells.unlimited)

theorem Sources.unlimited (tree : Tree) (source : Source) (sourced : Sources limits tree source) :
    Sources .none tree source := by
  cases sourced with
  | pipe tagged => exact .pipe tagged
  | board tagged => exact .board tagged
  | column tagged spelled => exact .column tagged (spelled.imp Spells.unlimited)

theorem Targets.unlimited (tree : Tree) (target : Target) (aimed : Targets limits tree target) :
    Targets .none tree target :=
  ⟨aimed.column.imp Spells.unlimited, aimed.place.unlimited fun _ _ => id⟩

theorem Cards.unlimited (tree : Tree) (card : CardInfo) (described : Cards limits tree card) :
    Cards .none tree card :=
  ⟨described.name.imp Spells.unlimited, described.description.unlimited Spells.unlimited⟩

theorem Acts.unlimited {action : Action} (acting : Acts limits node action) :
    Acts .none node action := by
  cases acting with
  | print tagged => exact .print tagged
  | copy tagged aimed => exact .copy tagged (aimed.imp Targets.unlimited)
  | move tagged aimed => exact .move tagged (aimed.imp Targets.unlimited)
  | add tagged aimed described =>
      exact .add tagged (aimed.imp Targets.unlimited) (described.imp Cards.unlimited)

theorem Defines.unlimited {caseSensitive : Bool} {body : Body}
    (defined : Defines limits caseSensitive node body) :
    Defines .none caseSensitive node body := by
  cases defined with
  | take tagged params sourced placed sized =>
      exact .take tagged (params.unlimited fun _ _ => id) (sourced.unlimited Sources.unlimited)
        (placed.unlimited fun _ _ => id) (sized.unlimited Counts.unlimited)
  | order tagged params ordered sourced =>
      exact .order tagged (params.unlimited fun _ _ => id) ordered
        (sourced.unlimited Sources.unlimited)
  | filter tagged params by_ spelled flagged =>
      exact .filter tagged (params.unlimited fun _ _ => id) (by_.unlimited fun _ _ => id)
        (spelled.imp Spells.unlimited) (flagged.unlimited fun _ _ => id)
  | act tagged params acting =>
      exact .act tagged (params.unlimited fun _ _ => id) acting.unlimited
  | group tagged listed => exact .group tagged (listed.imp Steps.unlimited)
  | flow tagged listed => exact .flow tagged (listed.imp Steps.unlimited)

end

end Kanban.Grammar
