import Kanban.Console
import Kanban.Settings.Sources
import Kanban.Yaml
import Std.Time

namespace Kanban.Console

def offline : Transport Unit where
  send _ state := (.refused "no connection", state)

def usage : String :=
  "usage: cardflow [-h] [--config CONFIG] [-v] (run TASK [key=value ...] | tasks | bot)"

def learnVariable (host : Host) (name : String) : IO Host := do
  match ← IO.getEnv name with
  | some value => return { host with environment := (name, value) :: host.environment }
  | none => return host

/-- Learns what a path leads to; what cannot be read is taken for absent. -/
def learnFile (host : Host) (path : Path) : IO Host := do
  try
    return host.write path (← IO.FS.readBinFile (host.directory.under path).toText)
  catch
    | .inappropriateType .. => return host.makeDirectory path
    | _ => return host

/-- The homes of the users that the system knows, from a table whose columns colons divide. -/
def knownHomes : IO (List (String × String)) := do
  try
    let lines ← IO.FS.lines "/etc/passwd"
    return lines.toList.filterMap fun line =>
      match line.splitOn ":" with
      | name :: _ :: _ :: _ :: _ :: home :: _ => some (name, home)
      | _ => none
  catch _ => return []

def surroundings (config : Option String) : IO Host := do
  let directory := Path.ofText (← IO.currentDir).toString
  let homes ← knownHomes
  let nothing : Host := { reader := Yaml.reader, directory, homes }
  let host ← ["HOME", Settings.pathVariable].foldlM learnVariable nothing
  learnFile host (Settings.sourcePath host config)

def explore (host : Host) (config : Option String) : IO Host := do
  match Settings.load host config with
  | .error _ => return host
  | .ok settings =>
      let host ← settings.variableNames.foldlM learnVariable host
      (settings.sources host).foldlM learnFile host

/-- Numbers that are mixed from a seed and their places. -/
def unseeded : IO Draws := do
  let seed := hash (← IO.getRandomBytes 8)
  return { number := fun place => (mixHash seed (hash place)).toNat }

def timeStamp : IO String := do
  return (← Std.Time.PlainDateTime.now).format "uuuu-MM-dd HH:mm:ss,SSS"

def present (outcome : Outcome Unit) : IO UInt32 := do
  let time ← timeStamp
  for line in outcome.output do
    IO.println (line.shown time)
  if let some complaint := outcome.ending.complaint? then
    IO.eprintln complaint
  match outcome.ending with
  | .left .help => IO.println usage
  | .left .misused => IO.eprintln usage
  | .broken _ => IO.eprintln "a value is of no use where it stands"
  | _ => pure ()
  return UInt32.ofNat (outcome.ending.code?.getD 1)

def answer (words : List String) : IO UInt32 := do
  let config :=
    match Invocation.ofWords words with
    | .ok invocation => invocation.config
    | .error _ => none
  let host ← explore (← surroundings config) config
  let world : World Unit := { service := (), draws := ← unseeded }
  present (run host (.remote offline) words world)

end Kanban.Console

def main (words : List String) : IO UInt32 :=
  Kanban.Console.answer words
