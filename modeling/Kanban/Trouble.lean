import Kanban.DepthLimit
import Kanban.Pipeline.Phase
import Kanban.Tree.Written
import Kanban.Trouble.Kind

/-!
What can go wrong on purpose, by cause.  Each cause has a kind and a message; `Misuse` is for
values that no rule of the task language foresees, which a run does not explain to its user.
-/
namespace Kanban

inductive DefinitionTrouble where
  | fieldAbsent (name : String) (node : List (Tree × Tree))
  | noMapping (name : String) (got : Tree)
  | noText (got : Tree)
  | noSize (got : Tree)
  | negativeSize (size : Int)
  | noFlag (got : Tree)
  | noList (got : Tree)
  | unknownTag (tag : String)
  | noDocument (got : Tree)
  | taskTwice (name written : Tree)
  | invalidYaml (detail : String)

inductive RunTrouble where
  | taskMissing (name : String)
  | boardMissing (name : String)
  | columnMissing (name : String)
  | labelMissing (name : String)
  | noPipe (phase : Phase)
  | selfReference (name : String) (underWay : List String)
  | tooDeep (limit : DepthLimit) (name : String)
  | unanswered (method path reason : String)
  | refused (method path : String) (status : Int) (text : String)
  | unreadable (method path : String)
  | cardMissing (id : Tree)
  | boardDown

/-- Why a file cannot be read; no file has a name that is too long or holds the zero character. -/
inductive FileFault where
  | missing
  | isDirectory
  | notDirectory
  | nameTooLong
  | unnameable
  deriving DecidableEq, Repr

inductive SettingsTrouble where
  | sectionShape (name : String) (got : Tree)
  | fileMissing (path : String)
  | fileInvalid (path detail : String)
  | fileShape (path : String)
  | taskFile (path : String) (fault : FileFault)
  | credentialFile (path : String) (fault : FileFault)
  | credentialInvalid (path detail : String)
  | credentialShape (path : String)
  | noCredentials (keyName tokenName : String)
  | noBotToken (name : String)

inductive ArgumentTrouble where
  | shapeless (word : String)
  | nameless (word : String)
  deriving DecidableEq, Repr

inductive Trouble where
  | definition (trouble : DefinitionTrouble)
  | run (trouble : RunTrouble)
  | settings (trouble : SettingsTrouble)
  | argument (trouble : ArgumentTrouble)

/-- Values that no rule foresees: an entity without an identifier, a value of a kind that cannot be
used at its place, a text that is too short, a position that is no numeral or too large, a number
that is too long to be read or written, a value without end, a call that a service lacks, bytes that
are no text, a directory in the place of a file, a file name that is too long, the home of a user
nobody knows. -/
inductive Misuse where
  | missingEntry
  | wrongKind
  | noSuchPart
  | noSuchPlace
  | notANumeral
  | tooLarge
  | endless
  | notProvided
  | undecodable
  | isDirectory
  | notDirectory
  | nameTooLong
  | unknownUser
  deriving DecidableEq, Repr

inductive Failure where
  | trouble (trouble : Trouble)
  | misuse (misuse : Misuse)

namespace DefinitionTrouble

def kind : DefinitionTrouble → TroubleKind
  | fieldAbsent .. => .fieldAbsent
  | unknownTag _ => .unrecognizedTag
  | invalidYaml _ => .document
  | _ => .typeMismatch

def message : DefinitionTrouble → String
  | fieldAbsent name node => s!"{name} is absent in {(Tree.map node).literal}"
  | noMapping name got => s!"expected a mapping with '{name}' but got: {got.literal}"
  | noText got => s!"type should be string but got: {got.literal}"
  | noSize got => s!"size should be a number but got: {got.literal}"
  | negativeSize size => s!"size should not be negative but got: {Tree.intText size}"
  | noFlag got => s!"should be bool but got: {got.literal}"
  | noList got => s!"type should be a list but got: {got.literal}"
  | unknownTag tag => s!"the type '{tag}' is not recognized"
  | noDocument got => s!"the yaml with tasks seems to be absent in {got.literal}"
  | taskTwice name written =>
      s!"the task {name.shown} is defined twice after substituting {written.literal}"
  | invalidYaml detail => s!"the task document is not valid yaml: {detail}"

def shownValues : DefinitionTrouble → List Tree
  | fieldAbsent _ node => [.map node]
  | noMapping _ got | noText got | noSize got | noFlag got | noList got | noDocument got => [got]
  | negativeSize size => [.int size]
  | taskTwice name written => [name, written]
  | unknownTag _ | invalidYaml _ => []

end DefinitionTrouble

namespace RunTrouble

def kind : RunTrouble → TroubleKind
  | taskMissing _ | boardMissing _ | columnMissing _ | labelMissing _ => .notFound
  | noPipe _ => .noPipe
  | selfReference .. | tooDeep .. => .cycle
  | unanswered .. | refused .. | unreadable .. | cardMissing _ | boardDown => .board

def status? : RunTrouble → Option Int
  | refused _ _ status _ => some status
  | cardMissing _ => some 404
  | boardDown => some 503
  | _ => none

def message : RunTrouble → String
  | taskMissing name => s!"the task {name} does not exist"
  | boardMissing name => s!"board {name} is not found"
  | columnMissing name => s!"the column {name} is not found"
  | labelMissing name => s!"the label {name} is not found"
  | noPipe phase => s!"no pipe results, state is {phase.word}"
  | selfReference name underWay =>
      let chain := " -> ".intercalate (underWay ++ [name])
      s!"the task {name} refers to itself: {chain}"
  | tooDeep limit name => s!"tasks are nested deeper than {limit.shown} at {name}"
  | unanswered method path reason => s!"{method} {path} failed: {reason}"
  | refused method path status text => s!"{method} {path} returned {Tree.intText status}: {text}"
  | unreadable method path => s!"{method} {path} returned invalid json"
  | cardMissing id => s!"no card {id.shown}"
  | boardDown => "the board is down"

end RunTrouble

def FileFault.message (fault : FileFault) (path : String) : String :=
  let reason :=
    match fault with
    | .missing => "[Errno 2] No such file or directory"
    | .isDirectory => "[Errno 21] Is a directory"
    | .notDirectory => "[Errno 20] Not a directory"
    | .nameTooLong => "[Errno 36] File name too long"
    | .unnameable => "embedded null byte"
  s!"{reason}: {Text.quoted path}"

def SettingsTrouble.message : SettingsTrouble → String
  | sectionShape name got => s!"section '{name}' should be a mapping, got: {got.literal}"
  | fileMissing path => s!"settings file not found: {path}"
  | fileInvalid path detail => s!"settings file {path} is not valid yaml: {detail}"
  | fileShape path => s!"settings file {path} should contain a mapping"
  | taskFile path fault => s!"cannot read task file {path}: {fault.message path}"
  | credentialFile path fault => s!"cannot read trello credentials {path}: {fault.message path}"
  | credentialInvalid path detail => s!"cannot read trello credentials {path}: {detail}"
  | credentialShape path => s!"trello credentials {path} should have key and token"
  | noCredentials keyName tokenName =>
      s!"Trello credentials are not set.\nSet them:  export {keyName}=... {tokenName}=...\n" ++
        "or point trello.credentials at a file with `key` and `token`."
  | noBotToken name =>
      s!"Environment variable {name} is not set.\nSet it:  export {name}=your_bot_token\n" ++
        "Get a token from @BotFather on Telegram."

def SettingsTrouble.shownValues : SettingsTrouble → List Tree
  | sectionShape _ got => [got]
  | _ => []

def ArgumentTrouble.message : ArgumentTrouble → String
  | shapeless word => s!"argument '{word}' should look like key=value"
  | nameless word => s!"argument '{word}' has an empty name"

namespace Trouble

def kind : Trouble → TroubleKind
  | definition trouble => trouble.kind
  | run trouble => trouble.kind
  | settings _ => .settings
  | argument _ => .argument

def message : Trouble → String
  | definition trouble => trouble.message
  | run trouble => trouble.message
  | settings trouble => trouble.message
  | argument trouble => trouble.message

end Trouble

namespace Failure

/-- Trouble whose message would show a number that is too long to be written is a misuse. -/
def showing (values : List Tree) (trouble : Trouble) : Failure :=
  if values.all Tree.isWritable then .trouble trouble else .misuse .notANumeral

def ofRun (trouble : RunTrouble) : Failure :=
  .trouble (.run trouble)

def ofDefinition (trouble : DefinitionTrouble) : Failure :=
  showing trouble.shownValues (.definition trouble)

def ofSettings (trouble : SettingsTrouble) : Failure :=
  showing trouble.shownValues (.settings trouble)

/-- A name that no file can have is a misuse, any other fault of a file is trouble with the
settings. -/
def ofFile (trouble : FileFault → SettingsTrouble) (fault : FileFault) : Failure :=
  match fault with
  | .unnameable => .misuse .notANumeral
  | other => ofSettings (trouble other)

def ofArgument (trouble : ArgumentTrouble) : Failure :=
  .trouble (.argument trouble)

def tooDeep (limit : DepthLimit) (name : String) : Failure :=
  match limit with
  | .levels _ => .ofRun (.tooDeep limit name)
  | .other value => showing [value] (.run (.tooDeep limit name))

@[simp] theorem showing_nil (trouble : Trouble) : showing [] trouble = .trouble trouble := rfl

end Failure

end Kanban
