import Kanban.Console.Invocation
import Kanban.Launch
import Kanban.Trouble.Report

namespace Kanban

namespace Console

inductive Line where
  | logged (level : LogLevel) (message : String)
  | printed (text : String)
  deriving DecidableEq, Repr

def Line.shown (time : String) : Line → String
  | logged level message => s!"{time} [cardflow] {level.word}: {message}"
  | printed text => text

inductive Ending where
  | left (departure : Departure)
  | done
  | failed (trouble : Trouble)
  | broken (cause : Misuse)

def Ending.code? : Ending → Option Nat
  | left .help => some 0
  | left .misused => some 2
  | done => some 0
  | failed _ => some 1
  | broken _ => none

def Ending.complaint? : Ending → Option String
  | failed trouble => some trouble.report.consoleLine
  | _ => none

structure Outcome (σ : Type) where
  ending : Ending
  output : List Line := []
  world : World σ

def loggedLines (threshold : LogLevel) (trace : List Event) : List Line :=
  trace.filterMap fun event =>
    match event with
    | .log level message =>
        if level.shownAt threshold then some (.logged level message) else none
    | _ => none

def runTask (launch : Launch σ) (task : String) (words : List String) : Run σ (List String) := do
  let arguments ← Run.ofExcept .ofArgument (Arguments.ofWords words)
  let pipeline ← launch.run (.text task) arguments
  return [s!"the task {task} is done.", pipeline.shown]

def listTasks (launch : Launch σ) : Run σ (List String) := do
  let program ← launch.load []
  return s!"board: {program.board}" :: program.names

/-- The chat cannot start without its token. -/
def startChat (launch : Launch σ) : Run σ (List String) := do
  let _ ← Run.ofExcept id (launch.settings.chatToken launch.host)
  Run.info "Starting cardflow bot…"
  return []

def perform (launch : Launch σ) : Command → Run σ (List String)
  | .run task words => runTask launch task words
  | .tasks => listTasks launch
  | .chat => startChat launch

def Ending.ofFailure : Failure → Ending
  | .trouble cause => .failed cause
  | .misuse cause => .broken cause

/-- Carries out a command; trouble is noted in the log too. -/
def conduct (launch : Launch σ) (threshold : LogLevel) (command : Command) (world : World σ) :
    Outcome σ :=
  let (result, later) := perform launch command { world with trace := [] }
  let logged := loggedLines threshold later.trace
  let closed := { later with trace := world.trace ++ later.trace }
  match result with
  | .ok texts =>
      { ending := .done, output := logged ++ texts.map .printed, world := closed }
  | .error (.trouble cause) =>
      let note := loggedLines threshold [.debug "Task failed"]
      { ending := .failed cause, output := logged ++ note, world := closed }
  | .error (.misuse cause) =>
      { ending := .broken cause, output := logged, world := closed }

def threshold (settings : Settings) (verbose : Bool) : Except Misuse LogLevel :=
  if verbose then .ok .debug else LogLevel.ofTree settings.level

/-- Answers a command line.  What is wrong with the settings comes before there is a log. -/
def run (host : Host) (provider : Provider σ) (words : List String) (world : World σ) :
    Outcome σ :=
  match Invocation.ofWords words with
  | .error departure => { ending := .left departure, world }
  | .ok invocation =>
      match Settings.load host invocation.config with
      | .error failure => { ending := .ofFailure failure, world }
      | .ok settings =>
          match threshold settings invocation.verbose with
          | .error cause => { ending := .broken cause, world }
          | .ok threshold =>
              conduct { settings, host, provider } threshold invocation.command world

end Console

end Kanban
