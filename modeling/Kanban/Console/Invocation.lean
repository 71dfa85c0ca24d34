import Kanban.Console.Words

namespace Kanban.Console

inductive Command where
  | run (task : String) (arguments : List String)
  | tasks
  | chat
  deriving DecidableEq, Repr

structure Invocation where
  config : Option String := none
  verbose : Bool := false
  command : Command
  deriving DecidableEq, Repr

/-- The words in front of the command: the switches among them, and whether one is unknown. -/
structure Preface where
  config : Option String := none
  verbose : Bool := false
  unknown : Bool := false
  deriving DecidableEq, Repr

namespace Invocation

def beforeMark (words : List String) : List String :=
  words.takeWhile (· != endMark)

def behindMark? (words : List String) : Option (List String) :=
  match words.dropWhile (· != endMark) with
  | [] => none
  | _ :: rest => some rest

/-- The first switch among the words behind a command, if any, has to be for help. -/
def checkSwitches : List String → Except Departure Unit
  | [] => .ok ()
  | text :: rest =>
      match helpSwitches.word text with
      | .long _ (some _) => .error .misused
      | .long _ none => .error .help
      | .short _ joined => do
          let _ ← helpSwitches.shared joined
          .error .help
      | _ => checkSwitches rest

def checkOperands (words : List String) : Except Departure Unit := do
  checkSwitches (beforeMark words)
  if (beforeMark words).any fun text => helpSwitches.word text != .operand then
    .error .misused

/-- The first mark among the words falls away. -/
def withoutMark (words : List String) : List String :=
  words.erase endMark

/-- The task is the first operand; a mark before it or right behind it falls away. -/
def runCommand (words : List String) : Except Departure Command := do
  checkOperands words
  match beforeMark words, behindMark? words with
  | [], some (task :: rest) => return .run task (withoutMark rest)
  | [], _ => .error .misused
  | [task], some rest => return .run task (withoutMark rest)
  | task :: _, _ => return .run task (withoutMark words.tail)

def bareCommand (command : Command) (words : List String) : Except Departure Command := do
  checkOperands words
  if words.isEmpty then .ok command else .error .misused

def commandNamed (name : String) (words : List String) : Except Departure Command :=
  match name with
  | "run" => runCommand words
  | "tasks" => bareCommand .tasks words
  | "bot" => bareCommand .chat words
  | _ => .error .misused

def applySwitches (preface : Preface) : List Switch → Except Departure Preface
  | [] => .ok preface
  | .help :: _ => .error .help
  | .verbose :: rest => applySwitches { preface with verbose := true } rest
  | .config :: _ => .error .misused

/-- A command is the first operand, and all that follows belongs to it. -/
def finish (preface : Preface) (name : String) (words : List String) :
    Except Departure Invocation := do
  let command ← commandNamed name words
  if preface.unknown then
    .error .misused
  else
    return { config := preface.config, verbose := preface.verbose, command }

def readFrom (preface : Preface) : List String → Except Departure Invocation
  | [] => .error .misused
  | text :: rest =>
      if text = endMark then
        .error .misused
      else
        match commonSwitches.word text with
        | .operand => finish preface text rest
        | .unknown => readFrom { preface with unknown := true } rest
        | .ambiguous => .error .misused
        | .long .config (some value) => readFrom { preface with config := some value } rest
        | .long .config none =>
            match rest with
            | value :: rest =>
                if value != endMark && commonSwitches.word value == .operand then
                  readFrom { preface with config := some value } rest
                else
                  .error .misused
            | [] => .error .misused
        | .long .help none => .error .help
        | .long .verbose none => readFrom { preface with verbose := true } rest
        | .long _ (some _) => .error .misused
        | .short found joined => do
            let others ← commonSwitches.shared joined
            readFrom (← applySwitches preface (found :: others)) rest

/-- Reads a command line.  No switch before the mark may be unclear, wherever it stands. -/
def ofWords (words : List String) : Except Departure Invocation :=
  if (beforeMark words).any fun text => commonSwitches.word text == .ambiguous then
    .error .misused
  else
    readFrom {} words

end Invocation

end Kanban.Console
