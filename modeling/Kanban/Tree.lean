import Kanban.Number.Binary64
import Kanban.Number.Digits

/-!
Trees: the values of a document, of a settings file and of what a board service sends.  Mappings
keep their entries in order; two keys that stand for the same value are one key, which keeps its
first place and first spelling and takes the last value.

A number that is none equals nothing, not even itself, when it was computed.  The one that documents
name is a value like any other and the same wherever it is named.

A list or a mapping may hold itself.  Such a value has no finite form, so it is known by how it is
written and by what it holds on its first level.
-/
namespace Kanban

/-- What is known of a value that has no form of its own, a moment or a row of bytes for instance:
how it is written, what tells it from others of its sort, and what it may be used for. -/
structure Foreign where
  literal : String
  shown : String
  identity : String
  canBeKey : Bool
  yieldsItems : Bool
  deriving DecidableEq, Repr

inductive Tree where
  | null
  | bool (value : Bool)
  | int (value : Int)
  | real (value : Float)
  | undefined
  | text (value : String)
  | date (year month day : Nat)
  | list (items : List Tree)
  | map (entries : List (Tree × Tree))
  | endless (written : String) (inside : Tree)
  | foreign (value : Foreign) (items : List Tree)
  deriving Inhabited

namespace Tree

/-- Truth values count as the numbers zero and one. -/
def integer? : Tree → Option Int
  | bool value => some (if value then 1 else 0)
  | int value => some value
  | _ => none

def sameNumber (left right : Tree) : Bool :=
  match left, right with
  | real x, real y => x == y
  | real x, other => match other.integer? with
      | some n => Number.whole? x == some n
      | none => false
  | other, real y => match other.integer? with
      | some n => Number.whole? y == some n
      | none => false
  | _, _ => match left.integer?, right.integer? with
      | some m, some n => m == n
      | _, _ => false

def fraction? : Tree → Option (Int × Nat)
  | real value => Number.fraction? value
  | other => other.integer?.map (·, 1)

mutual

/-- Equality of values: numbers compare by value, mappings without regard to order. -/
def same : Tree → Tree → Bool
  | null, null => true
  | undefined, undefined => true
  | text s, text t => s == t
  | date year month day, date year' month' day' => year == year' && month == month' && day == day'
  | list items, list others => sameItems items others
  | map entries, map others => entries.length == others.length && sameEntries entries others
  | foreign value _, foreign other _ => value.identity == other.identity
  | left, right => sameNumber left right

def sameItems : List Tree → List Tree → Bool
  | [], [] => true
  | item :: items, other :: others => item.same other && sameItems items others
  | _, _ => false

def sameEntries : List (Tree × Tree) → List (Tree × Tree) → Bool
  | [], _ => true
  | (key, value) :: entries, others =>
      others.any (fun other => key.same other.1 && value.same other.2) &&
        sameEntries entries others

end

@[simp] theorem same_text (s t : String) : same (text s) (text t) = (s == t) := by
  simp [same]

def putEntry (entries : List (Tree × Tree)) (key value : Tree) : List (Tree × Tree) :=
  match entries with
  | [] => [(key, value)]
  | (other, old) :: rest =>
      if other.same key then (other, value) :: rest else (other, old) :: putEntry rest key value

def ofEntries (entries : List (Tree × Tree)) : List (Tree × Tree) :=
  entries.foldl (fun built entry => putEntry built entry.1 entry.2) []

def entry? (entries : List (Tree × Tree)) (name : String) : Option Tree :=
  (entries.find? fun entry => entry.1.same (text name)).map (·.2)

@[simp] theorem entry?_nil (name : String) : entry? [] name = none := rfl

def isText : Tree → Bool
  | text _ => true
  | _ => false

def isNumber : Tree → Bool
  | real _ | undefined => true
  | other => other.integer?.isSome

/-- Whether a value counts as given: it is not null, false, zero or empty. -/
def isGiven : Tree → Bool
  | null => false
  | bool value => value
  | int value => value != 0
  | real value => !(value == 0.0)
  | undefined => true
  | text value => !value.isEmpty
  | date .. => true
  | list items => !items.isEmpty
  | map entries => !entries.isEmpty
  | endless .. => true
  | foreign value items => !value.yieldsItems || !items.isEmpty

@[simp] theorem isGiven_null : isGiven null = false := rfl

def orElse (value fallback : Tree) : Tree :=
  if value.isGiven then value else fallback

/-- Mappings and lists cannot be the key of a mapping. -/
def canBeKey : Tree → Bool
  | list _ => false
  | map _ => false
  | endless .. => false
  | foreign value _ => value.canBeKey
  | _ => true

/-- What a value is on its first level. -/
def opened : Tree → Tree
  | endless _ inside => inside
  | other => other

def elements? (value : Tree) : Option (List Tree) :=
  match value.opened with
  | list items => some items
  | text value => some (value.toList.map fun c => text (String.singleton c))
  | map entries => some (entries.map (·.1))
  | foreign value items => if value.yieldsItems then some items else none
  | _ => none

mutual

/-- Whether there is an end to a value and to all that it holds. -/
def isFinite : Tree → Bool
  | endless .. => false
  | list items => itemsAreFinite items
  | map entries => entriesAreFinite entries
  | _ => true

def itemsAreFinite : List Tree → Bool
  | [] => true
  | item :: items => item.isFinite && itemsAreFinite items

def entriesAreFinite : List (Tree × Tree) → Bool
  | [] => true
  | (key, value) :: entries => key.isFinite && value.isFinite && entriesAreFinite entries

end

mutual

/-- Whether a value can be written out, that is, no number in it is too long for that. -/
def isWritable : Tree → Bool
  | int value => Number.isWritable value
  | list items => itemsAreWritable items
  | map entries => entriesAreWritable entries
  | endless _ inside => inside.isWritable
  | foreign _ items => itemsAreWritable items
  | _ => true

def itemsAreWritable : List Tree → Bool
  | [] => true
  | item :: items => item.isWritable && itemsAreWritable items

def entriesAreWritable : List (Tree × Tree) → Bool
  | [] => true
  | (key, value) :: entries => key.isWritable && value.isWritable && entriesAreWritable entries

end

@[simp] theorem isWritable_text (s : String) : isWritable (text s) = true := by
  simp [isWritable]

end Tree

end Kanban
