import Kanban.Proofs.Executor.Entering
import Kanban.Proofs.Service.Memory.FailFast

namespace Kanban.Executor

def inMemory (program : Program) (board : Tree) (limit : DepthLimit) : Executor Memory where
  program := program
  service := Memory.service
  board := board
  limit := limit

variable (program : Program) (board : Tree) (limit : DepthLimit)

def reading : Licence where
  fails := Fault
  writes := False
  draws := True

theorem column_reads (name : String) :
    Run.Alike reading Memory.service Memory.service ((inMemory program board limit).column name)
      ((inMemory program board limit).column name) :=
  column_alike (inMemory program board limit) Memory.service (fun _ fault => fault) name

theorem landing_reads (place : Place) (columnId : Tree) :
    Run.Alike reading Memory.service Memory.service
      ((inMemory program board limit).landing place columnId)
      ((inMemory program board limit).landing place columnId) :=
  landing_alike (inMemory program board limit) Memory.service place columnId fun _ => trivial

theorem evaluate_reads (perform : Entrance → String → Run Memory Pipeline) {body : Body}
    (leaf : body.references = []) (reads : body.writes = false) (pipeline : Pipeline) :
    Run.Alike reading Memory.service Memory.service
      ((inMemory program board limit).evaluate perform body pipeline)
      ((inMemory program board limit).evaluate perform body pipeline) :=
  evaluate_alike (inMemory program board limit) Memory.service (fun _ fault => fault) body pipeline
    (by simp [reads]) (fun _ => trivial) (by simp [leaf])

theorem enter_inMemory (underWay : List String) (entrance : Entrance) (name : String) :
    Run.Alike ⟨Refusal, True, True⟩ Memory.service Memory.service
      ((inMemory program board limit).enter underWay entrance name)
      ((inMemory program board limit).enter underWay entrance name) :=
  enter_alike (inMemory program board limit) Memory.service (fun _ refusal => refusal) underWay
    entrance name fun _ _ _ _ => ⟨fun _ => trivial, fun _ => trivial⟩

theorem begin_leads {entrance : Entrance} {name : String} {world begun : World Memory}
    {pipeline : Pipeline} (begins : entrance.begin name world = (.ok pipeline, begun)) :
    world.LeadsTo (entrance.announcement name) begun := by
  rw [Entrance.begin_apply] at begins
  cases begins
  cases entrance with
  | fresh => exact .info world _
  | continuing pipeline => exact ⟨rfl, rfl, .refl _⟩

theorem enter_leads (underWay : List String) (entrance : Entrance) (name : String)
    (world : World Memory) :
    ∃ events, world.LeadsTo events
      ((inMemory program board limit).enter underWay entrance name world).2 :=
  (enter_inMemory program board limit underWay entrance name).leads world

theorem enter_keeps {invariant : Memory → Prop}
    (kept : ∀ memory call, invariant memory → invariant (memory.after call))
    {underWay : List String} {entrance : Entrance} {name : String} {world later : World Memory}
    {ended : Except Failure Pipeline}
    (left : (inMemory program board limit).enter underWay entrance name world = (ended, later))
    (holds : invariant world.service) : invariant later.service := by
  obtain ⟨events, leads⟩ := enter_leads program board limit underWay entrance name world
  rw [left] at leads
  rw [leads.service]
  exact Memory.replay_keeps kept holds events

/-- A run during which the write number `k + 1` fails does all that it does without this failure up
to that write, and then it ends; where there are no more than `k` writes, it makes no difference. -/
theorem run_fails_fast (name : String) (world : World Memory) (k : Nat) :
    let executor := inMemory program board limit
    let number := world.service.writes + k + 1
    let whole := executor.run name (world.failing none)
    let cut := executor.run name (world.failing (some (number : Nat)))
    ∃ events, whole.2.trace = world.trace ++ events ∧
      whole.2.service = (world.service.failing none).replay events ∧
      (Event.writes events ≤ k → cut = (whole.1, whole.2.failing (some (number : Nat)))) ∧
      (k < Event.writes events → ∃ before call after,
        events = before ++ .call call :: after ∧ call.isWrite ∧ Event.writes before = k ∧
        cut.1 = .error (.ofRun .boardDown) ∧ RunTrouble.boardDown.status? = some 503 ∧
        cut.2.trace = world.trace ++ before ++ [.call call] ∧
        cut.2.service =
          ((world.service.failing none).replay before).counted.failing (some (number : Nat)) ∧
        cut.2.service.cards = ((world.service.failing none).replay before).cards) := by
  intro executor number whole cut
  obtain ⟨events, leads, course⟩ :=
    (enter_inMemory program board limit [] .fresh name).fails_fast number
      (show (world.failing none).service.failAt = none from rfl)
  refine ⟨events, leads.trace, leads.service, fun few => ?_, fun many => ?_⟩
  · rwa [if_neg (by simp only [World.failing, Memory.failing]; omega)] at course
  · rw [if_pos (by simp only [World.failing, Memory.failing]; omega)] at course
    obtain ⟨before, call, after, split, write, count, down, trace, service⟩ := course
    have same : cut.2.service = _ := service
    refine ⟨before, call, after, split, write, ?_, down, rfl, trace, service, ?_⟩
    · simp only [World.failing, Memory.failing] at count
      omega
    · rw [same]
      rfl

end Kanban.Executor
