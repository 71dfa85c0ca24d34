import Kanban.Text.Digit
import Kanban.Yaml.Cursor
import Kanban.Yaml.Token

namespace Kanban.Yaml

def anchorName : Scan String := do
  Scan.skip
  let name ← Scan.run isNameChar
  let next ← Scan.peek
  let ends := endsWord next ||
    next.any fun c => c == '?' || c == ':' || c == ',' || c == ']' || c == '\x7d' || c == '%' ||
      c == '@' || c == '\x60'
  if name.isEmpty || !ends then
    Scan.fail .nameExpected
  return String.ofList name

namespace TagName

def standard : String :=
  "tag:yaml.org,2002:"

/-- A lone mark, which leaves the type open. -/
def unspecific : String :=
  "!"

def handles : List (String × String) :=
  [("!", "!"), ("!!", standard)]

def full? (name : TagName) : Option String :=
  match name.handle with
  | none => some name.rest
  | some handle => (handles.find? (·.1 == handle)).map (·.2 ++ name.rest)

def isUriChar (c : Char) : Bool :=
  isNameChar c || c == ';' || c == '/' || c == '?' || c == ':' || c == '@' || c == '&' ||
    c == '=' || c == '+' || c == '$' || c == ',' || c == '.' || c == '!' || c == '~' || c == '*' ||
    c == '\x27' || c == '(' || c == ')' || c == '[' || c == ']'

/-- Takes bytes that are written as a percent sign and two digits each. -/
def escapedBytes : Nat → Scan (List UInt8)
  | 0 => return []
  | fuel + 1 => do
      if (← Scan.peek) != some '%' then
        return []
      Scan.skip
      match (← Scan.peekAt 0).bind Text.hexValue?, (← Scan.peekAt 1).bind Text.hexValue? with
      | some high, some low =>
          Scan.skip 2
          return UInt8.ofNat (16 * high + low) :: (← escapedBytes fuel)
      | _, _ => Scan.fail .malformedTag

def uri : Nat → Scan (List Char)
  | 0 => return []
  | fuel + 1 => do
      let chars ← Scan.run isUriChar
      if (← Scan.peek) == some '%' then
        let bytes ← escapedBytes (← get).room
        match String.fromUTF8? ⟨bytes.toArray⟩ with
        | some text => return chars ++ text.toList ++ (← uri fuel)
        | none => Scan.fail .malformedTag
      else
        return chars

def scanSuffix : Scan String := do
  let start := (← get).index
  let chars ← uri (← get).room
  if (← get).index = start then
    Scan.fail .malformedTag
  return String.ofList chars

/-- Takes a handle: two marks with a name between them, or one mark alone. -/
def scanHandle : Scan String := do
  let word := (← get).rest.takeWhile fun c => !(c == ' ' || isBreak c)
  Scan.skip
  if !word.tail.contains '!' then
    return unspecific
  let name ← Scan.run isNameChar
  if (← Scan.peek) != some '!' then
    Scan.fail .malformedTag
  Scan.skip
  return "!" ++ String.ofList name ++ "!"

def scan : Scan TagName := do
  let next ← Scan.peekAt 1
  let name ←
    if next == some '<' then
      Scan.skip 2
      let name ← scanSuffix
      if (← Scan.peek) != some '>' then
        Scan.fail .malformedTag
      Scan.skip
      pure { rest := name }
    else if endsWord next then
      Scan.skip
      pure { rest := unspecific }
    else
      let handle ← scanHandle
      pure { handle := some handle, rest := ← scanSuffix }
  if !((← Scan.peek).all fun c => c == ' ' || isBreak c) then
    Scan.fail .malformedTag
  return name

end TagName

end Kanban.Yaml
