import Kanban.Proofs.Executor.Entering
import Kanban.Proofs.Service.Failures

/-!
What the guard against endless references amounts to.  A run that returns has gone along every chain
of references, so all their names are defined, none comes twice and none is beyond the depth limit.
A run that is refused for a cycle has found a chain that repeats a name or is too long.
-/
namespace Kanban

@[simp] theorem DepthLimit.reachedAt?_ofInt (count : Int) (depth : Nat) :
    (ofTree (.int count)).reachedAt? depth = some (decide (count ≤ depth)) := by
  unfold ofTree
  dsimp only
  split <;> rfl

namespace Executor

section

variable {perform : Entrance → String → Run σ Pipeline} {announce : String → String}
  {entrance : Pipeline → Entrance} {steps : List String} {pipeline result : Pipeline}
  {world later : World σ} {failure : Failure}

theorem inTurn_performed
    (done : inTurn perform announce entrance steps pipeline world = (.ok result, later)) :
    ∀ step ∈ steps, ∃ entrance before given after,
      perform entrance step before = (.ok given, after) := by
  induction steps generalizing pipeline world with
  | nil => simp
  | cons first rest ih =>
      obtain ⟨_, announced, _, done⟩ := Run.bind_ok done
      obtain ⟨given, between, performed, done⟩ := Run.bind_ok done
      intro step member
      rcases List.mem_cons.mp member with rfl | member
      · exact ⟨_, _, _, _, performed⟩
      · exact ih done step member

theorem inTurn_failed
    (failed : inTurn perform announce entrance steps pipeline world = (.error failure, later)) :
    ∃ step ∈ steps, ∃ entrance before, perform entrance step before = (.error failure, later) := by
  induction steps generalizing pipeline world with
  | nil => cases failed
  | cons first rest ih =>
      rcases Run.bind_error failed with failed | ⟨_, announced, _, failed⟩
      · cases failed
      · rcases Run.bind_error failed with failed | ⟨given, between, _, failed⟩
        · exact ⟨first, by simp, _, _, failed⟩
        · obtain ⟨step, member, performed⟩ := ih failed
          exact ⟨step, by simp [member], performed⟩

variable {executor : Executor σ} {body : Body}

theorem evaluate_performed
    (done : executor.evaluate perform body pipeline world = (.ok result, later)) :
    ∀ step ∈ body.references, ∃ entrance before given after,
      perform entrance step before = (.ok given, after) := by
  cases body with
  | take | order | filter | act => exact nofun
  | group steps =>
      obtain ⟨_, between, performed, _⟩ := Run.bind_ok done
      exact inTurn_performed performed
  | flow steps => exact inTurn_performed done

theorem evaluate_failed
    (failed : executor.evaluate perform body pipeline world = (.error failure, later)) :
    (∃ step ∈ body.references, ∃ entrance before,
      perform entrance step before = (.error failure, later)) ∨
    ∀ expected : Failure → Prop, (∀ cause, Fault cause → expected cause) →
      executor.service.FailsOnlyWith expected → expected failure := by
  by_cases leaf : body.references = []
  · refine Or.inr fun expected faults service => ?_
    exact (leaf_alike executor perform leaf pipeline).failure_expected faults service failed
  · cases body with
    | take | order | filter | act => exact absurd rfl leaf
    | group steps =>
        rcases Run.bind_error failed with failed | ⟨_, between, _, failed⟩
        · exact Or.inl (inTurn_failed failed)
        · cases failed
    | flow steps => exact Or.inl (inTurn_failed failed)

end

/-- Why a chain of names cannot be under way: its last name is there already, or it is too long. -/
inductive Offence (maxDepth : Int) : (chain : List String) → Trouble → Prop where
  | repeated {underWay : List String} {name : String} :
      name ∈ underWay → Offence maxDepth (underWay ++ [name]) (.run (.selfReference name underWay))
  | tooDeep {chain : List String} {limit : DepthLimit} {name : String} :
      maxDepth < chain.length → Offence maxDepth chain (.run (.tooDeep limit name))

theorem Offence.not_guarded {maxDepth : Int} {chain : List String} {trouble : Trouble}
    (offence : Offence maxDepth chain trouble) : ¬ chain.Nodup ∨ maxDepth < chain.length := by
  cases offence with
  | repeated inside =>
      left
      intro distinct
      exact (List.nodup_append.mp distinct).2.2 _ inside _ (by simp) rfl
  | tooDeep long => exact Or.inr long

variable {executor : Executor σ} {maxDepth : Int}
  (bounded : executor.limit = .ofTree (.int maxDepth))
include bounded

/-- A task that returns inside those under way has been along every chain from it. -/
theorem enter_clears_chain {underWay names : List String} {entrance : Entrance} {name : String}
    {world later : World σ} {pipeline : Pipeline}
    (returned : executor.enter underWay entrance name world = (.ok pipeline, later))
    (chain : executor.program.Chain name names) :
    (∀ other ∈ names, other ∈ executor.program.tableNames ∧ other ∉ underWay) ∧ names.Nodup ∧
      (underWay.length + names.length : Nat) ≤ maxDepth := by
  -- Each task along the chain is entered with all those before it under way.
  induction chain generalizing underWay entrance world later pipeline with
  | single name =>
      obtain ⟨body, begun, found, _, outside, free, evaluated⟩ := enter_returned returned
      simp only [bounded, DepthLimit.reachedAt?_ofInt, Option.some.injEq,
        decide_eq_false_iff_not] at free
      refine ⟨?_, by simp, ?_⟩
      · simpa using ⟨Program.body?_mem found, outside⟩
      · simp only [List.length_singleton]
        omega
  | @step name next rest reference chain ih =>
      obtain ⟨body, begun, found, _, outside, free, evaluated⟩ := enter_returned returned
      rw [Program.references_of_body found] at reference
      obtain ⟨entrance, before, given, after, performed⟩ :=
        evaluate_performed evaluated next reference
      obtain ⟨known, distinct, short⟩ := ih performed
      have unseen : name ∉ rest := fun member => (known name member).2 (by simp)
      refine ⟨?_, List.nodup_cons.mpr ⟨unseen, distinct⟩, ?_⟩
      · intro other member
        rcases List.mem_cons.mp member with rfl | member
        · exact ⟨Program.body?_mem found, outside⟩
        · exact ⟨(known other member).1, fun inside => (known other member).2 (by simp [inside])⟩
      · simp only [List.length_append, List.length_cons, List.length_nil] at short ⊢
        omega

theorem enter_cycle_offends {underWay : List String} {entrance : Entrance} {name : String}
    {world later : World σ} {trouble : Trouble}
    (service : executor.service.FailsOnlyWith Failure.IsOfBoard)
    (failed : executor.enter underWay entrance name world = (.error (.trouble trouble), later))
    (cycle : trouble.kind = .cycle) :
    ∃ names, executor.program.Chain name names ∧ Offence maxDepth (underWay ++ names) trouble := by
  induction underWay, entrance, name using enter.induct executor generalizing world later with
  | case1 underWay entrance name missing =>
      rw [executor.enter_missing missing] at failed
      cases failed
      cases cycle
  | case2 underWay entrance name body found ih =>
      have entering := executor.enter_entering underWay entrance name world
      generalize executor.enter underWay entrance name world = ended at entering failed
      cases entering with
      | missing =>
          cases failed
          cases cycle
      | repeated _ _ inside =>
          cases failed
          exact ⟨[name], .single name, .repeated inside⟩
      | incomparable => cases failed
      | tooDeep _ _ _ full =>
          simp only [bounded, DepthLimit.reachedAt?_ofInt, Option.some.injEq,
            decide_eq_true_eq] at full
          obtain rfl := Failure.tooDeep_trouble (Except.error.inj (congrArg Prod.fst failed))
          refine ⟨[name], .single name, .tooDeep ?_⟩
          simp only [List.length_append, List.length_singleton]
          omega
      | evaluated same _ outside _ =>
          rw [found] at same
          cases same
          -- A cycle is either found further down or never: bodies and services know of none.
          rcases evaluate_failed failed with ⟨next, reference, entrance, before, failed⟩ | own
          · obtain ⟨rest, chain, offence⟩ := ih outside entrance next failed
            refine ⟨name :: rest, .step ?_ chain, ?_⟩
            · rwa [Program.references_of_body found]
            · simpa using offence
          · refine absurd (congrArg some cycle) (own (·.kind? ≠ some .cycle) ?_ ?_)
            · rintro _ (_ | _ | _ | _) <;> simp [Failure.kind?, Failure.ofRun, Trouble.kind,
                RunTrouble.kind]
            · intro α call state failure given kind
              exact absurd (service call state failure given .cycle kind) (by simp)

/-- A run that returns has every chain from its task defined, without repetition and within the
limit; and a run that is refused for a cycle has a chain from its task that repeats a name or is too
long, which is the one that it names if it says that a task refers to itself. -/
theorem run_guards_chains (name : String) :
    (∀ world pipeline later, executor.run name world = (.ok pipeline, later) →
      ∀ names, executor.program.Chain name names →
        (∀ other ∈ names, other ∈ executor.program.tableNames) ∧ names.Nodup ∧
          names.length ≤ maxDepth) ∧
    (executor.service.FailsOnlyWith Failure.IsOfBoard →
      ∀ world trouble later, executor.run name world = (.error (.trouble trouble), later) →
        trouble.kind = .cycle →
        (∃ names, executor.program.Chain name names ∧
          (¬ names.Nodup ∨ maxDepth < names.length)) ∧
        ∀ last underWay, trouble = .run (.selfReference last underWay) →
          executor.program.Chain name (underWay ++ [last]) ∧ last ∈ underWay ∧
            trouble.message = "the task " ++ last ++ " refers to itself: " ++
              " -> ".intercalate (underWay ++ [last])) ∧
    Memory.service.FailsOnlyWith Failure.IsOfBoard ∧
    ∀ (client : Trello) (τ : Type) (transport : Transport τ),
      (client.service transport).FailsOnlyWith Failure.IsOfBoard := by
  refine ⟨?_, ?_, Memory.service_fails, fun client _ transport => client.service_fails transport⟩
  · intro world pipeline later returned names chain
    obtain ⟨known, distinct, short⟩ := enter_clears_chain bounded returned chain
    refine ⟨fun other member => (known other member).1, distinct, ?_⟩
    simpa using short
  · intro service world trouble later failed cycle
    obtain ⟨names, chain, offence⟩ := enter_cycle_offends bounded service failed cycle
    rw [List.nil_append] at offence
    refine ⟨⟨names, chain, offence.not_guarded⟩, ?_⟩
    rintro last underWay rfl
    cases offence with
    | repeated inside => exact ⟨chain, inside, rfl⟩

omit bounded in
/-- Two tasks that refer to each other: the run of the first one names the chain that closes. -/
theorem run_guards_chains_of_loop :
    let executor : Executor Memory :=
      { program := { board := "ENG", tasks := [("a", .flow ["b"]), ("b", .group ["a"])] }
        service := Memory.service
        board := .text "b1"
        limit := .ofTree (.int 32) }
    executor.limit = .ofTree (.int 32) ∧ executor.service.FailsOnlyWith Failure.IsOfBoard ∧
      (∀ world, (executor.run "a" world).1 = .error (.ofRun (.selfReference "a" ["a", "b"]))) ∧
      executor.program.Chain "a" ["a", "b", "a"] := by
  intro executor
  have first : executor.program.body? "a" = some (.flow ["b"]) := by rfl
  have second : executor.program.body? "b" = some (.group ["a"]) := by rfl
  have limited : executor.limit = .ofTree (.int 32) := by simp only [executor]
  have refused (world : World Memory) :
      (executor.run "a" world).1 = .error (.ofRun (.selfReference "a" ["a", "b"])) := by
    simp [run, enter_found, first, second, limited, evaluate, flow, group, inTurn,
      Entrance.begin_apply, Run.bind_apply, Run.info, Run.trouble]
    rfl
  refine ⟨limited, Memory.service_fails, refused, ?_⟩
  let world : World Memory := { service := {}, draws := { number := fun _ => 0 } }
  have refusal := (run_guards_chains limited "a").2.1 Memory.service_fails world
    (.run (.selfReference "a" ["a", "b"])) (executor.run "a" world).2
    (Prod.ext (refused world) rfl) rfl
  exact (refusal.2 "a" ["a", "b"] rfl).1

end Executor

end Kanban
