import Kanban.Text.Blank

namespace Kanban

/-- `slashes` is zero for a path that starts at the working directory. -/
structure Path where
  slashes : Nat := 0
  parts : List String := []
  deriving DecidableEq, Repr

namespace Path

def leadingSlashes (chars : List Char) : Nat :=
  match (chars.takeWhile (· == '/')).length with
  | 0 => 0
  | 2 => 2
  | _ => 1

/-- The names between slashes, without empty ones and those for the same place. -/
def partsOf (text : String) : List String :=
  ((Text.parts '/' text.toList).map String.ofList).filter fun part =>
    !(part.isEmpty || part == ".")

def ofText (text : String) : Path :=
  { slashes := leadingSlashes text.toList, parts := partsOf text }

def toText (path : Path) : String :=
  let front := String.ofList (List.replicate path.slashes '/')
  let joined := front ++ "/".intercalate path.parts
  if joined.isEmpty then "." else joined

def isAbsolute (path : Path) : Bool :=
  path.slashes != 0

def under (directory path : Path) : Path :=
  if path.isAbsolute then path else { directory with parts := directory.parts ++ path.parts }

def parent (path : Path) : Path :=
  { path with parts := path.parts.dropLast }

def climb (reached : List String) : List String → List String
  | [] => reached
  | part :: rest => climb (if part = ".." then reached.dropLast else reached ++ [part]) rest

def resolved (directory path : Path) : Path :=
  { slashes := 1, parts := climb [] (directory.under path).parts }

/-- Whose home a path starts from: a user that is named, or nobody in particular. -/
def homeOf? (path : Path) : Option String :=
  match path.slashes, path.parts with
  | 0, first :: _ => if first.startsWith "~" then some (first.drop 1).toString else none
  | _, _ => none

def fromHome (home path : Path) : Path :=
  { home with parts := home.parts ++ path.parts.drop 1 }

end Path

end Kanban
