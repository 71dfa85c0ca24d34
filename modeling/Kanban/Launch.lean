import Kanban.Executor
import Kanban.Program.Written
import Kanban.Settings.Credentials

namespace Kanban

/-- Where a run gets its board service from. -/
inductive Provider (σ : Type) where
  | ready (service : Service σ)
  | remote (transport : Transport σ)

def Provider.service (provider : Provider σ) (settings : Settings) (host : Host) :
    Except Failure (Service σ) :=
  match provider with
  | .ready service => .ok service
  | .remote transport => do return (← settings.client host).service transport

structure Launch (σ : Type) where
  settings : Settings
  host : Host
  provider : Provider σ

namespace Launch

def program (launch : Launch σ) (arguments : Arguments) : Except Failure Program := do
  let path ← (launch.settings.tasksPath launch.host).mapError Failure.misuse
  let content ← (launch.host.read path).mapError (.ofFile (.taskFile path.toText))
  let text ← (Host.decode content).mapError Failure.misuse
  Program.ofYaml launch.host.reader text arguments launch.settings.tasks.caseSensitive.isGiven

def load (launch : Launch σ) (arguments : Arguments) : Run σ Program := do
  let program ← Run.ofExcept id (launch.program arguments)
  Run.emit program.notes
  return program

def executor (launch : Launch σ) (arguments : Arguments) : Run σ (Executor σ) := do
  let program ← launch.load arguments
  let service ← Run.ofExcept id (launch.provider.service launch.settings launch.host)
  Executor.start program service (.ofTree launch.settings.tasks.maxDepth)

/-- Runs the task that a value names, which has to be one that can be written. -/
def run (launch : Launch σ) (task : Tree) (arguments : Arguments) : Run σ Pipeline := do
  if !task.isWritable then
    Run.fail (.misuse .notANumeral)
  Run.info s!"Running task {task.shown} with arguments {arguments.literal}"
  let executor ← launch.executor arguments
  let pipeline ← executor.runNamed task
  Run.info s!"Task {task.shown} finished in state {pipeline.phase.word}"
  return pipeline

end Launch

end Kanban
