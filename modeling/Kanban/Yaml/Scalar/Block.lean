import Kanban.Yaml.Cursor

namespace Kanban.Yaml

namespace BlockScalar

inductive Chomping where
  | strip
  | clip
  | keep
  deriving DecidableEq, Repr

/-- `extra` is the indentation of the lines beyond that of the block around them. -/
structure Header where
  chomping : Chomping := .clip
  extra : Option Nat := none
  deriving DecidableEq, Repr

def chomping? : Option Char → Option Chomping
  | some '-' => some .strip
  | some '+' => some .keep
  | _ => none

def takeChomping : Scan (Option Chomping) := do
  let found := chomping? (← Scan.peek)
  if found.isSome then
    Scan.skip
  return found

def takeExtra : Scan (Option Nat) := do
  match ← Scan.peek with
  | some c =>
      if c == '0' then
        Scan.fail .blockHeader
      else if c.isDigit then
        Scan.skip
        return some (c.toNat - '0'.toNat)
      else
        return none
  | none => return none

/-- The sign and the digit may come in either order. -/
def header : Scan Header := do
  let first ← takeChomping
  let extra ← takeExtra
  let chomping ← if first.isNone && extra.isSome then takeChomping else pure first
  let next ← Scan.peek
  if !(next.all fun c => c == ' ' || isBreak c) then
    Scan.fail .blockHeader
  Scan.blankLine .blockHeader
  return { chomping := chomping.getD .clip, extra }

/-- Takes the empty lines before the first line; the widest margin among them and of that line is
what the block is indented by. -/
def findIndentation : Nat → Nat → Scan (List Char × Nat)
  | 0, widest => return ([], widest)
  | fuel + 1, widest => do
      Scan.skipSpaces
      let widest := max widest (← get).column
      match ← Scan.lineBreak? with
      | some c =>
          let (others, widest) ← findIndentation fuel widest
          return (c :: others, widest)
      | none => return ([], widest)

def margin (indentation : Nat) : Scan Unit := do
  let cursor ← get
  let spaces := cursor.rest.takeWhile (· == ' ')
  Scan.skip (min spaces.length (indentation - cursor.column))

/-- Takes the empty lines before a line of the block and the margin of that line. -/
def emptyLines (indentation : Nat) : Nat → Scan (List Char)
  | 0 => return []
  | fuel + 1 => do
      margin indentation
      match ← Scan.lineBreak? with
      | some c => return c :: (← emptyLines indentation fuel)
      | none => return []

/-- Whether two lines with the break `first` between them are joined. -/
def joins (folded startsWithWord : Bool) (first : Option Char) (next : Option Char) : Bool :=
  folded && first == some '\n' && startsWithWord && !(next.any isSpaceOrTab)

def ending (chomping : Chomping) (last : Option Char) (others : List Char) : List Char :=
  match chomping with
  | .strip => []
  | .clip => last.toList
  | .keep => last.toList ++ others

/-- Takes the lines of a block, from behind the margin of the first one; `before` are the empty
lines in front of it. -/
def lines (folded : Bool) (chomping : Chomping) (indentation : Nat) :
    Nat → List Char → Scan (List Char)
  | 0, before => return before
  | fuel + 1, before => do
      let startsWithWord := !((← Scan.peek).any isSpaceOrTab)
      let line ← Scan.run (!isBreak ·)
      let last ← Scan.lineBreak?
      let others ← emptyLines indentation (← get).room
      let cursor ← get
      if cursor.column = indentation ∧ cursor.rest ≠ [] then
        let between :=
          if joins folded startsWithWord last cursor.rest.head? then
            if others.isEmpty then [' '] else []
          else
            last.toList
        return before ++ line ++ between ++ (← lines folded chomping indentation fuel others)
      else
        return before ++ line ++ ending chomping last others

def scan (folded : Bool) (least : Nat) : Scan String := do
  Scan.skip
  let header ← header
  let fuel := (← get).room
  let (before, indentation) ←
    match header.extra with
    | some extra => do
        let indentation := least + extra - 1
        pure (← emptyLines indentation fuel, indentation)
    | none => do
        let (before, widest) ← findIndentation fuel 0
        pure (before, max least widest)
  let cursor ← get
  let chars ←
    if cursor.column = indentation ∧ cursor.rest ≠ [] then
      lines folded header.chomping indentation fuel before
    else
      pure (ending header.chomping none before)
  return String.ofList chars

end BlockScalar

end Kanban.Yaml
