import Kanban.Proofs.Executor.Meaning

namespace Kanban

/-- Steps of a flow with the names of some other flows replaced by the steps of those. -/
inductive Program.Expands (program : Program) (outer : String) :
    (steps written : List String) → Prop where
  | nil : Expands program outer [] []
  | keep {step : String} {rest written : List String} :
      Expands program outer rest written →
      Expands program outer (step :: rest) (step :: written)
  | inline {inner : String} {own rest written : List String} :
      inner ≠ outer → program.body? inner = some (.flow own) →
      Expands program outer rest written →
      Expands program outer (inner :: rest) (own ++ written)

/-- The program that another one becomes when flows are written out in one of its flows. -/
structure Program.Inlined (program inlined : Program) (outer : String)
    (steps written : List String) : Prop where
  before : program.body? outer = some (.flow steps)
  expands : program.Expands outer steps written
  after : inlined.body? outer = some (.flow written)
  elsewhere : ∀ name, name ≠ outer → inlined.body? name = program.body? name

namespace Executor

def withProgram (executor : Executor σ) (program : Program) : Executor σ :=
  { executor with program := program }

@[simp] theorem withProgram_program (executor : Executor σ) (program : Program) :
    (executor.withProgram program).program = program := rfl

theorem withProgram_elementary? (executor : Executor σ) (program : Program) (body : Body) :
    (executor.withProgram program).elementary? body = executor.elementary? body := by
  apply elementary?_congr
  · rfl
  · rfl

variable {executor : Executor σ} {inlined : Program} {outer : String} {steps written : List String}

theorem threaded_expands {meanings others : String → Pipeline → Run σ Pipeline}
    (expands : executor.program.Expands outer steps written)
    (elsewhere : ∀ name, name ≠ outer → inlined.body? name = executor.program.body? name)
    (parts : ∀ step ∈ written, (executor.withProgram inlined).Denotes step (others step))
    (same : ∀ step ∈ steps, ∀ meaning, (executor.withProgram inlined).Denotes step meaning →
      meanings step = meaning) :
    threaded meanings steps = threaded others written := by
  funext pipeline
  induction expands generalizing pipeline with
  | nil => rfl
  | @keep step rest written expands ih =>
      have onward := ih (fun other member => parts other (List.mem_cons_of_mem _ member))
        fun other member => same other (List.mem_cons_of_mem _ member)
      have first := same step List.mem_cons_self _ (parts step List.mem_cons_self)
      simp only [threaded, List.foldlM_cons, first] at onward ⊢
      simp only [onward]
  | @inline inner own rest written different found expands ih =>
      have onward := ih (fun other member => parts other (List.mem_append_right _ member))
        fun other member => same other (List.mem_cons_of_mem _ member)
      have denotes : (executor.withProgram inlined).Denotes inner (threaded others own) := by
        refine .flow ?_ fun step member => parts step (List.mem_append_left _ member)
        rw [← found]
        exact elsewhere inner different
      have first := same inner List.mem_cons_self _ denotes
      simp only [threaded, List.foldlM_cons, List.foldlM_append, first] at onward ⊢
      simp only [onward]

theorem Denotes.of_inlined {name : String} {meaning : Pipeline → Run σ Pipeline}
    (inlining : executor.program.Inlined inlined outer steps written)
    (denotes : executor.Denotes name meaning) :
    ∀ other, (executor.withProgram inlined).Denotes name other → meaning = other := by
  induction denotes with
  | @undefined name missing =>
      intro other denotes
      have different : name ≠ outer := by
        rintro rfl
        simp [inlining.before] at missing
      refine (denotes.of_missing ?_).symm
      rwa [withProgram_program, inlining.elsewhere name different]
  | @elementary name body single found alone =>
      intro other denotes
      have different : name ≠ outer := by
        rintro rfl
        rw [inlining.before] at found
        cases found
        cases alone
      rw [← executor.withProgram_elementary? inlined body] at alone
      rw [← inlining.elsewhere name different] at found
      exact (denotes.of_elementary found alone).symm
  | @flow name own meanings found parts ih =>
      intro other denotes
      by_cases here : name = outer
      · subst here
        rw [inlining.before] at found
        cases found
        obtain ⟨others, rfl, parts'⟩ := denotes.of_flow inlining.after
        exact threaded_expands inlining.expands inlining.elsewhere parts' ih
      · obtain ⟨others, rfl, parts'⟩ := denotes.of_flow ((inlining.elsewhere name here).trans found)
        exact threaded_congr fun step member => ih step member _ (parts' step member)
  | @group name members meanings found parts ih =>
      intro other denotes
      have different : name ≠ outer := by
        rintro rfl
        simp [inlining.before] at found
      obtain ⟨others, rfl, parts'⟩ :=
        denotes.of_group ((inlining.elsewhere name different).trans found)
      rw [separate_congr fun step member => ih step member _ (parts' step member)]

/-- Where its chains of references fit, a run does the work that its task means: what is under way
plays no part.  So it does the same work when flows are written out in another flow. -/
theorem run_is_stackless {maxDepth : Int} (bounded : executor.limit = .ofTree (.int maxDepth))
    {name : String} (fits : executor.program.Fits maxDepth [] name) :
    (∃ meaning, executor.Denotes name meaning ∧
      (∀ other, executor.Denotes name other → other = meaning) ∧
      (executor.run name).SameWork (meaning .start)) ∧
    ∀ inlined outer steps written, executor.program.Inlined inlined outer steps written →
      inlined.Fits maxDepth [] name →
      (executor.run name).SameWork ((executor.withProgram inlined).run name) := by
  obtain ⟨meaning, denotes, works⟩ := run_does_what_it_means bounded fits
  refine ⟨⟨meaning, denotes, denotes.unique, works⟩, ?_⟩
  intro inlined outer steps written inlining fits'
  have bounded' : (executor.withProgram inlined).limit = .ofTree (.int maxDepth) := bounded
  obtain ⟨other, denotes', works'⟩ := run_does_what_it_means bounded' fits'
  rw [← denotes.of_inlined inlining other denotes'] at works'
  exact works.trans works'.symm

/-- A flow with a flow in it that shuffles, and the same with that flow written out. -/
theorem run_is_stackless_of_nested :
    let leaves : List (String × Body) :=
      [("all", .take .board 0 .top), ("mix", .order .shuffle .pipe), ("show", .act .print)]
    let nested : Program :=
      { board := "ENG"
        tasks := [("go", .flow ["pick", "show"]), ("pick", .flow ["all", "mix"])] ++ leaves }
    let flat : Program :=
      { board := "ENG"
        tasks := [("go", .flow ["all", "mix", "show"]), ("pick", .flow ["all", "mix"])] ++ leaves }
    let executor : Executor Memory :=
      { program := nested, service := Memory.service, board := .text "b1",
        limit := .ofTree (.int 3) }
    nested.Fits 3 [] "go" ∧ flat.Fits 3 [] "go" ∧
      nested.Inlined flat "go" ["pick", "show"] ["all", "mix", "show"] ∧
      (∃ meaning, executor.Denotes "go" meaning ∧ (executor.run "go").SameWork (meaning .start)) ∧
      (executor.run "go").SameWork ((executor.withProgram flat).run "go") := by
  intro leaves nested flat executor
  let rank (name : String) : Nat :=
    if name = "go" then 2 else if name = "pick" then 1 else 0
  have fits : nested.Fits 3 [] "go" := .of_rank rank (by decide) (by decide)
  have fits' : flat.Fits 3 [] "go" := .of_rank rank (by decide) (by decide)
  have inlining : nested.Inlined flat "go" ["pick", "show"] ["all", "mix", "show"] := by
    have different : "pick" ≠ "go" := by decide
    have pick : nested.body? "pick" = some (.flow ["all", "mix"]) := by rfl
    have expands : nested.Expands "go" ["pick", "show"] (["all", "mix"] ++ ["show"]) :=
      .inline different pick (.keep .nil)
    refine ⟨rfl, expands, rfl, ?_⟩
    intro name elsewhere
    simp [nested, flat, Program.body?, Ne.symm elsewhere]
  have bounded : executor.limit = .ofTree (.int 3) := by simp only [executor]
  obtain ⟨⟨meaning, denotes, _, works⟩, inlines⟩ := run_is_stackless bounded fits
  exact ⟨fits, fits', inlining, ⟨meaning, denotes, works⟩, inlines _ _ _ _ inlining fits'⟩

end Executor

end Kanban
