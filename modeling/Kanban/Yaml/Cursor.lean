import Kanban.Yaml.Fault

namespace Kanban.Yaml

def isBreak (c : Char) : Bool :=
  c == '\n' || c == '\r' || c == '\x85' || c == '\u2028' || c == '\u2029'

def isSpaceOrTab (c : Char) : Bool :=
  c == ' ' || c == '\t'

/-- Letters, digits and the two joining marks make the names of anchors and handles. -/
def isNameChar (c : Char) : Bool :=
  c.isAlphanum || c == '-' || c == '_'

def endsLine (c : Option Char) : Bool :=
  c.all isBreak

def endsWord (c : Option Char) : Bool :=
  c.all fun c => isBreak c || isSpaceOrTab c

def byteOrderMark : Char :=
  '\ufeff'

def isAllowed (c : Char) : Bool :=
  let code := c.toNat
  code == 0x09 || code == 0x0a || code == 0x0d || (0x20 ≤ code && code ≤ 0x7e) || code == 0x85 ||
    (0xa0 ≤ code && code ≤ 0xfffd) || 0x10000 ≤ code

/-- `size` is the number of characters of the whole text; `obstacle` is what keeps those behind
them from being read, if there is more than the text's end. -/
structure Cursor where
  rest : List Char
  size : Nat
  obstacle : Option Fault := none
  index : Nat := 0
  line : Nat := 0
  column : Nat := 0
  deriving Repr

namespace Cursor

def ofChars (chars : List Char) : Cursor :=
  { rest := chars, size := chars.length }

def room (cursor : Cursor) : Nat :=
  cursor.size - cursor.index + 1

def place (cursor : Cursor) : Place :=
  ⟨cursor.line, cursor.column⟩

/-- Moves over one character; a carriage return before a line feed does not end the line, and a
byte order mark takes no room on it. -/
def next (cursor : Cursor) : Cursor :=
  match cursor.rest with
  | [] => cursor
  | c :: rest =>
      let moved := { cursor with rest, index := cursor.index + 1 }
      if isBreak c && !(c == '\r' && rest.head? == some '\n') then
        { moved with line := cursor.line + 1, column := 0 }
      else if c == byteOrderMark then
        moved
      else
        { moved with column := cursor.column + 1 }

def advance (cursor : Cursor) : Nat → Cursor
  | 0 => cursor
  | count + 1 => cursor.next.advance count

/-- Whether a marker of a document's start or end stands here, taken as a word. -/
def atMarker (cursor : Cursor) (marker : List Char) : Bool :=
  marker.isPrefixOf cursor.rest && endsWord cursor.rest[marker.length]?

def startMarker : List Char :=
  ['-', '-', '-']

def endMarker : List Char :=
  ['.', '.', '.']

def atAnyMarker (cursor : Cursor) : Bool :=
  cursor.atMarker startMarker || cursor.atMarker endMarker

end Cursor

abbrev Scan := StateT Cursor (Except Fault)

namespace Scan

def fail {α : Type} (flaw : Flaw) : Scan α := fun cursor =>
  .error ⟨flaw, some cursor.place⟩

/-- There is no way past the characters if an obstacle lies behind them. -/
def stopAtObstacle : Scan Unit := fun cursor =>
  match cursor.obstacle with
  | some fault => .error fault
  | none => .ok ((), cursor)

def peekAt (ahead : Nat) : Scan (Option Char) := do
  let found := (← get).rest[ahead]?
  if found.isNone then
    stopAtObstacle
  return found

def peek : Scan (Option Char) :=
  peekAt 0

/-- Moves on to a character that can be read, or to the end of the text. -/
def skip (count : Nat := 1) : Scan Unit := do
  modify (·.advance count)
  if (← get).rest.isEmpty then
    stopAtObstacle

def run (belongs : Char → Bool) : Scan (List Char) := do
  let chars := (← get).rest.takeWhile belongs
  skip chars.length
  return chars

def skipWhile (belongs : Char → Bool) : Scan Unit := do
  let _ ← run belongs

def skipSpaces : Scan Unit :=
  skipWhile (· == ' ')

/-- Takes a line break, which is a line feed unless it is one of the two separators. -/
def lineBreak? : Scan (Option Char) := do
  match (← get).rest with
  | '\r' :: '\n' :: _ =>
      skip 2
      return some '\n'
  | c :: _ =>
      if isBreak c then
        skip
        return some (if c == '\u2028' || c == '\u2029' then c else '\n')
      else
        return none
  | [] => return none

/-- Takes the rest of a line that may hold a comment and nothing else. -/
def blankLine (otherwise : Flaw) : Scan Unit := do
  skipSpaces
  if (← peek) == some '#' then
    skipWhile (!isBreak ·)
  if endsLine (← peek) then
    let _ ← lineBreak?
  else
    fail otherwise

end Scan

/-- What a line break within a text stands for: a space, unless empty lines follow it, which are
line breaks themselves. -/
def foldedBreak (first : Char) (others : List Char) : List Char :=
  if first != '\n' then
    first :: others
  else if others.isEmpty then
    [' ']
  else
    others

end Kanban.Yaml
