import Kanban.Proofs.Executor.InMemory
import Kanban.Proofs.Run.Effects

namespace Kanban

/-- Whether all tasks that are reached from a name have bodies of a kind. -/
def Program.ReachesOnly (program : Program) (name : String) (kind : Body → Prop) : Prop :=
  ∀ reached body, program.Reaches name reached → program.body? reached = some body → kind body

/-- It is enough to look at names of which none refers to any other. -/
theorem Program.ReachesOnly.of_closed {program : Program} {name : String} {kind : Body → Prop}
    (names : List String) (inside : name ∈ names)
    (closed : ∀ name ∈ names, ∀ next ∈ program.references name, next ∈ names)
    (kinds : ∀ name ∈ names, ∀ body, program.body? name = some body → kind body) :
    program.ReachesOnly name kind := by
  have reached_mem {reached : String} (reaches : program.Reaches name reached) :
      reached ∈ names := by
    induction reaches with
    | refl => exact inside
    | tail _ reference ih => exact closed _ ih _ reference
  exact fun reached body reaches found => kinds reached (reached_mem reaches) body found

namespace Executor

def licenceOf (program : Program) (name : String) : Licence where
  fails := Refusal
  writes := ¬ program.ReachesOnly name (·.writes = false)
  draws := ¬ program.ReachesOnly name (·.draws = false)

theorem run_licensed (executor : Executor σ) (name : String) :
    Run.Alike (licenceOf executor.program name) executor.service executor.service
      (executor.run name) (executor.run name) := by
  refine enter_alike executor executor.service (fun _ refusal => refusal) [] .fresh name ?_
  intro reached body reaches found
  refine ⟨fun writes only => ?_, fun draws only => ?_⟩
  · rw [only reached body reaches found] at writes
    cases writes
  · rw [only reached body reaches found] at draws
    cases draws

/-- A run of a program that reaches no body that writes calls its service to read and for nothing
else, so a board that stays as it is when it is read stays as it is.  A run of a program that
reaches no body that draws takes no draw, and with other draws to be had it ends in the same way. -/
theorem effects_are_those_of_bodies (executor : Executor σ) (name : String) (start : World σ) :
    let ended := executor.run name start
    (executor.program.ReachesOnly name (·.writes = false) →
      (∃ events, ended.2.trace = start.trace ++ events ∧
        executor.service.ReadsTo start.service events ended.2.service) ∧
      (executor.service.StaysWhenRead → ended.2.service = start.service)) ∧
    (executor.program.ReachesOnly name (·.draws = false) →
      ended.2.draws = start.draws ∧
      ∀ draws, executor.run name { start with draws } = (ended.1, { ended.2 with draws })) := by
  intro ended
  have licensed := executor.run_licensed name
  refine ⟨fun reads => ?_, fun still => ?_⟩
  · obtain ⟨events, told, leads⟩ := licensed.reads (fun writes => writes reads) start
    exact ⟨⟨events, told, leads⟩, leads.stays⟩
  · exact ⟨licensed.draws_kept (fun draws => draws still) start,
      licensed.undrawn (fun draws => draws still) start⟩

/-- The task that moves cards is not reached from the one that takes them. -/
theorem effects_are_those_of_bodies_of_take :
    let card (id : String) : Card :=
      { id := .text id, name := .text "A", description := .text "", columnId := .text "c1",
        labelIds := [], position := 1, url := .text "", shortUrl := .text "" }
    let start : World Memory :=
      { service := { cards := [card "k1", card "k2"] }, draws := { number := fun _ => 0 } }
    let executor := inMemory
      { board := "ENG"
        tasks := [("go", .flow ["all", "turn", "go"]), ("all", .take .board 0 .top),
          ("turn", .order .reverse .pipe),
          ("sweep", .act (.move { column := "Done", place := .random }))] }
      (.text "b1") .standard
    let ended := executor.run "go" start
    executor.program.ReachesOnly "go" (·.writes = false) ∧
      executor.program.ReachesOnly "go" (·.draws = false) ∧
      ended.2.service = start.service ∧ (∀ event ∈ ended.2.trace, event.isWrite = false) ∧
      ended.2.draws = start.draws ∧
      ∀ draws, executor.run "go" { start with draws } = (ended.1, { ended.2 with draws }) := by
  intro card start executor ended
  have only {kind : Body → Prop} (flows : kind (.flow ["all", "turn", "go"]))
      (takes : kind (.take .board 0 .top)) (turns : kind (.order .reverse .pipe)) :
      executor.program.ReachesOnly "go" kind := by
    refine .of_closed ["go", "all", "turn"] (by simp) ?_ ?_
    · simp [executor, inMemory, Program.references, Program.body?, Body.references]
    · simpa [executor, inMemory, Program.body?] using ⟨flows, takes, turns⟩
  have reads : executor.program.ReachesOnly "go" (·.writes = false) := only rfl rfl rfl
  have still : executor.program.ReachesOnly "go" (·.draws = false) := only rfl rfl rfl
  obtain ⟨effects, chances⟩ := executor.effects_are_those_of_bodies "go" start
  obtain ⟨⟨events, told, leads⟩, kept⟩ := effects reads
  refine ⟨reads, still, kept Memory.service_staysWhenRead, ?_, chances still⟩
  rw [told]
  exact Memory.writes_of_readsTo leads

end Executor

end Kanban
