import Kanban.Launch
import Kanban.Proofs.Executor.Entering
import Kanban.Proofs.Run.SameWork

namespace Kanban

namespace Run.SameWork

theorem pure (value : α) : SameWork (Pure.pure value : Run σ α) (Pure.pure value) :=
  fun _ _ agrees => ⟨rfl, agrees⟩

theorem fail (failure : Failure) : SameWork (Run.fail failure : Run σ α) (Run.fail failure) :=
  fun _ _ agrees => ⟨rfl, agrees⟩

theorem ofExcept (wrap : ε → Failure) (result : Except ε α) :
    SameWork (Run.ofExcept wrap result : Run σ α) (Run.ofExcept wrap result) := by
  cases result with
  | ok value => exact .pure value
  | error cause => exact .fail (wrap cause)

theorem emit {events : List Event} (logs : ∀ event ∈ events, event.isLog) :
    SameWork (Run.emit events : Run σ Unit) (Run.emit events) := by
  have alike : Run.Alike .free (Service.absent : Service σ) (Service.absent : Service σ)
      (Run.emit events) (Run.emit events) := .emit logs
  exact .of_alike alike

theorem info (message : String) : SameWork (Run.info message : Run σ Unit) (Run.info message) :=
  .emit (by simp [Event.info, Event.isLog])

theorem attempt {part other : Run σ α} (same : part.SameWork other) :
    (Run.attempt part).SameWork (Run.attempt other) := by
  intro world twin agrees
  have parts := same world twin agrees
  unfold Run.attempt
  generalize part world = ended at parts
  generalize other twin = ended' at parts
  obtain ⟨result, later⟩ := ended
  obtain ⟨result', later'⟩ := ended'
  obtain ⟨rfl, agreesLater⟩ := parts
  rcases result with (_ | _) | _ <;> exact ⟨rfl, agreesLater⟩

end Run.SameWork

theorem Program.notes_are_logs (program : Program) : ∀ event ∈ program.notes, event.isLog := by
  unfold notes
  dsimp only
  split <;> simp [Event.debug, Event.isLog]

theorem Executor.runNamed_sameWork (executor : Executor σ) (name : Tree) :
    (executor.runNamed name).SameWork (executor.runNamed name) := by
  unfold runNamed
  split
  next => exact .of_alike (executor.enter_freely executor.service [] .fresh _)
  next =>
    split
    · exact .fail _
    · exact .fail _

theorem Executor.start_sameWork (program : Program) (service : Service σ) (limit : DepthLimit) :
    (Executor.start program service limit).SameWork (Executor.start program service limit) := by
  have found : Run.Alike .free service service (service.findBoard (.text program.board))
      (service.findBoard (.text program.board)) :=
    .bind (.ask .boards nofun) fun _ => .pure _
  refine (Run.SameWork.of_alike found).bind fun board => ?_
  cases board with
  | none => exact .fail _
  | some board => exact .pure _

namespace Launch

variable (launch : Launch σ)

theorem load_sameWork (arguments : Arguments) :
    (launch.load arguments).SameWork (launch.load arguments) :=
  (Run.SameWork.ofExcept id _).bind fun program =>
    (Run.SameWork.emit program.notes_are_logs).bind fun _ => .pure program

theorem executor_sameWork (arguments : Arguments) :
    (launch.executor arguments).SameWork (launch.executor arguments) :=
  (launch.load_sameWork arguments).bind fun program =>
    (Run.SameWork.ofExcept id _).bind fun service => Executor.start_sameWork program service _

theorem run_sameWork (task : Tree) (arguments : Arguments) :
    (launch.run task arguments).SameWork (launch.run task arguments) := by
  have started : Run.SameWork (do
      Run.info s!"Running task {task.shown} with arguments {arguments.literal}"
      let executor ← launch.executor arguments
      let pipeline ← executor.runNamed task
      Run.info s!"Task {task.shown} finished in state {pipeline.phase.word}"
      return pipeline) _ :=
    (Run.SameWork.info _).bind fun _ =>
    (launch.executor_sameWork arguments).bind fun executor =>
    (executor.runNamed_sameWork task).bind fun pipeline =>
    (Run.SameWork.info _).bind fun _ => .pure pipeline
  unfold run
  dsimp only
  split
  · exact (Run.SameWork.fail _).bind fun _ => started
  · exact started

end Launch

end Kanban
