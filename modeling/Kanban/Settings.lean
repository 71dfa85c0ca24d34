import Kanban.DepthLimit
import Kanban.Event.Level
import Kanban.Host
import Kanban.Trello

/-!
Settings: where the task file is, how runs behave, who may use the chat and how the board service is
reached.  Values are kept as they were written and are looked at when they are needed.  Secrets are
not part of the settings, only the names of the variables and of the file that hold them.
-/
namespace Kanban

structure Settings.Service where
  keyName : Tree := .text "TRELLO_KEY"
  tokenName : Tree := .text "TRELLO_TOKEN"
  credentials : Tree := .null
  base : Tree := .text Trello.defaultBase
  timeout : Tree := Trello.defaultTimeout

structure Settings.Tasks where
  path : Tree := .text "tasks.yaml"
  caseSensitive : Tree := .bool false
  maxDepth : Tree := .int 32

/-- `users` are the identifiers of those who may run tasks, as texts. -/
structure Settings.Chat where
  tokenName : Tree := .text "CARDFLOW_BOT_TOKEN"
  users : List String := []
  defaultTask : Tree := .null

/-- Paths in the settings start at `directory`. -/
structure Settings where
  service : Settings.Service := {}
  tasks : Settings.Tasks := {}
  chat : Settings.Chat := {}
  level : Tree := .text "INFO"
  directory : Path

namespace Settings

def section? (document : List (Tree × Tree)) (name : String) :
    Except SettingsTrouble (List (Tree × Tree)) :=
  match Tree.entry? document name with
  | none | some .null => .ok []
  | some found =>
      match found.opened with
      | .map entries => .ok entries
      | _ => .error (.sectionShape name found)

def valueOr (entries : List (Tree × Tree)) (name : String) (usual : Tree) : Tree :=
  (Tree.entry? entries name).getD usual

def serviceOf (entries : List (Tree × Tree)) : Settings.Service :=
  let usual : Settings.Service := {}
  { keyName := valueOr entries "key_env" usual.keyName
    tokenName := valueOr entries "token_env" usual.tokenName
    credentials := valueOr entries "credentials" usual.credentials
    base := valueOr entries "base_url" usual.base
    timeout := valueOr entries "timeout" usual.timeout }

def tasksOf (entries : List (Tree × Tree)) : Settings.Tasks :=
  let usual : Settings.Tasks := {}
  { path := valueOr entries "path" usual.path
    caseSensitive := valueOr entries "filter_case_sensitive" usual.caseSensitive
    maxDepth := valueOr entries "max_depth" usual.maxDepth }

/-- Users may be given by numbers too, as long as these can be written. -/
def usersOf (value : Tree) : Except Misuse (List String) :=
  match (value.orElse (.list [])).elements? with
  | some elements =>
      if elements.all Tree.isWritable then .ok (elements.map Tree.shown) else .error .notANumeral
  | none => .error .wrongKind

def chatOf (entries : List (Tree × Tree)) : Except Misuse Settings.Chat := do
  let usual : Settings.Chat := {}
  return {
    tokenName := valueOr entries "token_env" usual.tokenName
    users := ← usersOf (valueOr entries "allowed_users" .null)
    defaultTask := valueOr entries "default_task" usual.defaultTask }

structure Sections where
  service : List (Tree × Tree)
  tasks : List (Tree × Tree)
  chat : List (Tree × Tree)
  logging : List (Tree × Tree)

def sections (document : List (Tree × Tree)) : Except SettingsTrouble Sections := do
  return {
    service := ← section? document "trello"
    tasks := ← section? document "tasks"
    chat := ← section? document "bot"
    logging := ← section? document "logging" }

/-- Reads the settings from a document; sections and entries that nobody knows are passed over. -/
def ofTree (document : Tree) (directory : Path) : Except Failure Settings :=
  match document.opened with
  | .map entries => do
      let found ← (sections entries).mapError Failure.ofSettings
      let chat ← (chatOf found.chat).mapError Failure.misuse
      return {
        service := serviceOf found.service
        tasks := tasksOf found.tasks
        chat
        level := valueOr found.logging "level" (.text "INFO")
        directory }
  | _ => .error (.misuse .noSuchPart)

def pathVariable : String :=
  "CARDFLOW_CONFIG"

def defaultPath : Path :=
  Path.ofText "config/cardflow.yaml"

/-- The settings file that was asked for; an empty path asks for nothing. -/
def chosenPath? (host : Host) (path : Option String) : Option Path :=
  let filled := fun (text : Option String) => text.filter (!·.isEmpty)
  ((filled path).or (filled (host.entry? pathVariable))).map Path.ofText

def sourcePath (host : Host) (path : Option String) : Path :=
  (chosenPath? host path).getD defaultPath

/-- Reads a file as a document, of which only the first level matters; an empty one is an empty
mapping. -/
def document (reader : Reader) (content : ByteArray) : Except Unreadable Tree := do
  return ((← reader.file content).orElse (.map [])).opened

def ofContent (reader : Reader) (content : ByteArray) (path directory : Path) :
    Except Failure Settings :=
  match document reader content with
  | .ok (.map entries) => ofTree (.map entries) directory
  | .ok _ => .error (.ofSettings (.fileShape path.toText))
  | .error (.flaw message) => .error (.ofSettings (.fileInvalid path.toText message))
  | .error (.misuse cause) => .error (.misuse cause)

/-- Loads the settings file.  The usual one may lack, one that was asked for may not. -/
def load (host : Host) (path : Option String) : Except Failure Settings :=
  let source := sourcePath host path
  match host.has source with
  | .error cause => .error (.misuse cause)
  | .ok true =>
      match host.read source with
      | .ok content =>
          ofContent host.reader content source (Path.resolved host.directory source).parent
      | .error _ => .error (.misuse .isDirectory)
  | .ok false =>
      if (chosenPath? host path).isSome then
        .error (.ofSettings (.fileMissing source.toText))
      else
        .ok { directory := host.directory }

def resolve (settings : Settings) (host : Host) (written : Tree) : Except Misuse Path :=
  match written with
  | .text text => do return settings.directory.under (← host.expand (Path.ofText text))
  | _ => .error .wrongKind

def tasksPath (settings : Settings) (host : Host) : Except Misuse Path :=
  settings.resolve host settings.tasks.path

def isAllowed (settings : Settings) (user : Tree) : Bool :=
  settings.chat.users.contains user.shown

def chatToken (settings : Settings) (host : Host) : Except Failure String := do
  let name := settings.chat.tokenName
  match ← (host.filledEntry? name).mapError Failure.misuse with
  | some token => return token
  | none => throw (.ofSettings (.noBotToken name.shown))

end Settings

end Kanban
