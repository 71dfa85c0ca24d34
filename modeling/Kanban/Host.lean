import Kanban.Path
import Kanban.Reader

namespace Kanban

/-- Files and directories are named by the parts of their paths from the root; `homes` are those of
the users that are known by name. -/
structure Host where
  reader : Reader
  environment : List (String × String) := []
  directory : Path := { slashes := 1 }
  files : List (List String × ByteArray) := []
  directories : List (List String) := []
  homes : List (String × String) := []

namespace Host

inductive Found where
  | directory
  | file (content : ByteArray)

def entry? (host : Host) (name : String) : Option String :=
  (host.environment.find? (·.1 == name)).map (·.2)

def entryNamed? (host : Host) (name : Tree) : Except Misuse (Option String) :=
  match name with
  | .text name => .ok (host.entry? name)
  | _ => .error .wrongKind

/-- The variable that a value names, unless it is empty. -/
def filledEntry? (host : Host) (name : Tree) : Except Misuse (Option String) := do
  return (← host.entryNamed? name).filter (!·.isEmpty)

def isDirectory (host : Host) (parts : List String) : Bool :=
  parts.isPrefixOf host.directory.parts || host.directories.any parts.isPrefixOf ||
    host.files.any fun file => parts.isPrefixOf file.1.dropLast

def file? (host : Host) (parts : List String) : Option ByteArray :=
  (host.files.find? (·.1 == parts)).map (·.2)

def longestName : Nat :=
  255

def longestPath : Nat :=
  4095

def walk (host : Host) (reached : List String) : List String → Except FileFault Found
  | [] => .ok .directory
  | ".." :: rest => host.walk reached.dropLast rest
  | part :: rest =>
      if longestName < part.utf8ByteSize then
        .error .nameTooLong
      else
        let next := reached ++ [part]
        match host.file? next with
        | some content => if rest.isEmpty then .ok (.file content) else .error .notDirectory
        | none => if host.isDirectory next then host.walk next rest else .error .missing

def find (host : Host) (path : Path) : Except FileFault Found :=
  if path.toText.toList.contains '\x00' then .error .unnameable
  else if longestPath < path.toText.utf8ByteSize then .error .nameTooLong
  else host.walk [] (host.directory.under path).parts

/-- Whether a path leads anywhere, which cannot be said of one with too long a name. -/
def has (host : Host) (path : Path) : Except Misuse Bool :=
  match host.find path with
  | .ok _ => .ok true
  | .error .nameTooLong => .error .nameTooLong
  | .error _ => .ok false

def read (host : Host) (path : Path) : Except FileFault ByteArray :=
  match host.find path with
  | .ok (.file content) => .ok content
  | .ok .directory => .error .isDirectory
  | .error fault => .error fault

def decode (content : ByteArray) : Except Misuse String :=
  match String.fromUTF8? content with
  | some text => .ok text
  | none => .error .undecodable

/-- How the home of a user is written, or that of the host where no user is named. -/
def homeOf? (host : Host) (user : String) : Option String :=
  if user.isEmpty then
    some ((host.entry? "HOME").getD "/")
  else
    (host.homes.find? (·.1 == user)).map (·.2)

/-- Slashes at the end of a home do not count, and where nothing else is there it is the root.  A
home that starts from a home itself is none. -/
def home? (written : String) : Option Path :=
  let chars := (written.toList.reverse.dropWhile (· == '/')).reverse
  match chars with
  | [] => some { slashes := 1 }
  | '~' :: _ => none
  | _ => some (Path.ofText (String.ofList chars))

/-- Puts a home in the place of a tilde. -/
def expand (host : Host) (path : Path) : Except Misuse Path :=
  match path.homeOf? with
  | none => .ok path
  | some user =>
      if user.toList.contains '\x00' then
        .error .notANumeral
      else
        match (host.homeOf? user).bind home? with
        | some home => .ok (Path.fromHome home path)
        | none => .error .unknownUser

def write (host : Host) (path : Path) (content : ByteArray) : Host :=
  let parts := (Path.resolved host.directory path).parts
  { host with files := (parts, content) :: host.files.filter (·.1 != parts) }

def makeDirectory (host : Host) (path : Path) : Host :=
  { host with directories := (Path.resolved host.directory path).parts :: host.directories }

/-- Deletes a file; the directory it was in stays. -/
def delete (host : Host) (path : Path) : Host :=
  let parts := (Path.resolved host.directory path).parts
  { host with
    files := host.files.filter (·.1 != parts)
    directories := parts.dropLast :: host.directories }

end Host

end Kanban
