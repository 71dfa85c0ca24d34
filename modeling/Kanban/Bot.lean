import Kanban.Launch
import Kanban.Trouble.Report

namespace Kanban.Bot

def commands : List (String × String) :=
  [("help", "display this text"), ("task", "run a task: /task <name> [key=value ...]"),
    ("tasks", "task list")]

def descriptionLength : Nat :=
  256

def menu : List (String × String) :=
  commands.map fun (name, description) =>
    (name, String.ofList (description.toList.take descriptionLength))

inductive Handler where
  | help
  | tasks
  | task
  | text
  deriving DecidableEq, Repr

inductive Trigger where
  | command (name : String)
  | anyText
  deriving DecidableEq, Repr

def handlers : List (Trigger × Handler) :=
  [(.command "help", .help), (.command "start", .help), (.command "tasks", .tasks),
    (.command "task", .task), (.anyText, .text)]

structure User where
  id : Tree
  name : Tree := .null

structure Message where
  text : String
  user : Option User := none

def longestReply : Int :=
  3500

/-- Cuts a text behind so many characters and says how many are left out.  A negative length counts
from the end. -/
def truncate (text : String) (length : Int := longestReply) : String :=
  let chars := text.toList
  let size := (chars.length : Int)
  if size ≤ length then
    text
  else
    let kept := if length < 0 then size + length else length
    String.ofList (chars.take kept.toNat) ++
      s!"\n…[truncated, {size - length} chars omitted]"

def isAllowed (launch : Launch σ) (message : Message) : Bool :=
  message.user.any fun user => launch.settings.isAllowed user.id

def rejection : String :=
  "⛔ You are not authorized to run tasks."

def reject (message : Message) : Run σ (List String) := do
  let id := (message.user.map (·.id)).getD .null
  let name := (message.user.map (·.name)).getD .null
  Run.emit [.log .warning
    s!"Unauthorized access attempt: user_id={id.shown} username={name.shown}"]
  return [rejection]

def troubleReply (cause : Trouble) : List String :=
  [cause.report.chatLine]

def execute (launch : Launch σ) (task : Tree) (arguments : Arguments) : Run σ (List String) := do
  match ← Run.attempt (launch.run task arguments) with
  | .ok pipeline => return [s!"the task {task.shown} is done.", truncate pipeline.shown]
  | .error cause =>
      Run.emit [.log .error s!"Task {task.shown} failed: {cause.message}"]
      return troubleReply cause

def executeWords (launch : Launch σ) (task : Tree) (words : List String) : Run σ (List String) :=
  match Arguments.ofWords words with
  | .ok arguments => execute launch task arguments
  | .error cause => return troubleReply (.argument cause)

def help (launch : Launch σ) : Run σ (List String) := do
  let task := launch.settings.chat.defaultTask
  let lines := "These commands are supported:" ::
    commands.map fun (name, description) => s!"/{name} — {description}"
  if !task.isWritable then
    Run.fail (.misuse .notANumeral)
  let more :=
    if task.isGiven then
      [s!"Any other text runs `{task.shown}` with its words as key=value arguments."]
    else
      []
  return ["\n".intercalate (lines ++ more)]

def tasks (launch : Launch σ) : Run σ (List String) := do
  match ← Run.attempt (launch.load []) with
  | .ok program =>
      let listed := "\n".intercalate program.names
      return [if listed.isEmpty then "No tasks defined." else listed]
  | .error cause => return troubleReply cause

def taskUsage : String :=
  "Usage: /task <name> [key=value ...]\nExample: /task add_word word=serendipity"

/-- The word behind the command names the task, and the others are its arguments. -/
def task (launch : Launch σ) (text : String) : Run σ (List String) :=
  match (Text.words text).tail with
  | [] => return [taskUsage]
  | name :: words => executeWords launch (.text name) words

def plainText (launch : Launch σ) (text : String) : Run σ (List String) :=
  let task := launch.settings.chat.defaultTask
  if task.isGiven then
    executeWords launch task (Text.words text)
  else
    return ["No default task configured. Try /help."]

def answer (launch : Launch σ) (handler : Handler) (text : String) : Run σ (List String) :=
  match handler with
  | .help => help launch
  | .tasks => tasks launch
  | .task => task launch text
  | .text => plainText launch text

def handle (launch : Launch σ) (handler : Handler) (message : Message) : Run σ (List String) :=
  if handler = .help ∨ isAllowed launch message then
    answer launch handler message.text
  else
    reject message

end Kanban.Bot
