import Kanban.Yaml.Cursor

namespace Kanban.Yaml

namespace PlainScalar

def isFlowMark (c : Char) : Bool :=
  c == ',' || c == '[' || c == ']' || c == '\x7b' || c == '\x7d'

def isIndicator (c : Char) : Bool :=
  isFlowMark c || c == '-' || c == '?' || c == ':' || c == '#' || c == '&' || c == '*' ||
    c == '!' || c == '|' || c == '>' || c == '\x27' || c == '\x22' || c == '%' || c == '@' ||
    c == '\x60'

/-- Whether a plain scalar starts here: a dash may, before a word, and outside of brackets a
question mark or a colon too. -/
def startsHere (inFlow : Bool) (first next : Option Char) : Bool :=
  match first with
  | none => false
  | some c =>
      !(isIndicator c || endsWord first) ||
        (!endsWord next && (c == '-' || (!inFlow && (c == '?' || c == ':'))))

/-- The characters of a word up to the first one that ends it. -/
def word (inFlow : Bool) : List Char → List Char
  | [] => []
  | c :: rest =>
      let colonEnds :=
        endsWord rest.head? || (inFlow && rest.head?.any isFlowMark)
      if endsWord (some c) || (c == ':' && colonEnds) ||
          (inFlow && (isFlowMark c || c == '?')) then
        []
      else
        c :: word inFlow rest

/-- Takes empty lines and margins; nothing if a document marker stands behind them. -/
def emptyLines? : Nat → Scan (Option (List Char))
  | 0 => return some []
  | fuel + 1 => do
      if (← get).atAnyMarker then
        return none
      Scan.skipSpaces
      match ← Scan.lineBreak? with
      | some c => return (← emptyLines? fuel).map (c :: ·)
      | none => return some []

/-- What lies between two words: nothing more of the scalar, some spaces, or a line break. -/
structure Gap where
  between : List Char
  crossesLine : Bool

def gap : Scan Gap := do
  let spaces ← Scan.run (· == ' ')
  match ← Scan.lineBreak? with
  | some c =>
      match ← emptyLines? (← get).room with
      | some others => return ⟨foldedBreak c others, true⟩
      | none => return ⟨[], true⟩
  | none => return ⟨spaces, false⟩

/-- Takes words and the gaps between them; `before` is the gap in front of the first word, and the
flag tells whether the scalar was left at the start of a line. -/
def words (inFlow : Bool) (least : Nat) : Nat → Gap → Scan (List Char × Bool)
  | 0, before => return ([], before.crossesLine)
  | fuel + 1, before => do
      let cursor ← get
      let chars := word inFlow cursor.rest
      if cursor.rest.head? = some '#' ∨ chars.isEmpty then
        return ([], before.crossesLine)
      Scan.skip chars.length
      let after ← gap
      let written := before.between ++ chars
      if after.between.isEmpty || (!inFlow && (← get).column < least) then
        return (written, after.crossesLine)
      let (others, crossesLine) ← words inFlow least fuel after
      return (written ++ others, crossesLine)

def scan (inFlow : Bool) (least : Nat) : Scan (String × Bool) := do
  let (chars, crossesLine) ← words inFlow least (← get).room ⟨[], false⟩
  return (String.ofList chars, crossesLine)

end PlainScalar

end Kanban.Yaml
