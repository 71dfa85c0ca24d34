import Kanban.Proofs.Executor.Cycles
import Kanban.Proofs.Run.SameWork

/-!
The meaning of a task without regard to what is under way.  A flow hands the pipeline through the
meanings of its steps, a group has each of its members start anew, and a name that is not defined
fails when its turn comes.  Where chains of references neither repeat a name nor grow too long, a
run does the work that its task means, so the name of a flow can be replaced by its steps.
-/
namespace Kanban

namespace Executor

def elementary? (executor : Executor σ) : Body → Option (Pipeline → Run σ Pipeline)
  | .take source size place => some (executor.take source size place)
  | .order kind source => some (executor.order kind source)
  | .filter criterion value caseSensitive => some (executor.filter criterion value caseSensitive)
  | .act action => some (executor.act action)
  | .group _ => none
  | .flow _ => none

section

variable {executor other : Executor σ} (service : executor.service = other.service)
include service

theorem copyCards_congr : executor.copyCards = other.copyCards := by
  obtain ⟨program, _, board, limit⟩ := executor
  cases service
  funext target place cards
  induction cards with
  | nil => rfl
  | cons card rest ih =>
      rw [copyCards, copyCards, ih]
      rfl

theorem moveCards_congr : executor.moveCards = other.moveCards := by
  obtain ⟨program, _, board, limit⟩ := executor
  cases service
  funext target place cards
  induction cards with
  | nil => rfl
  | cons card rest ih =>
      rw [moveCards, moveCards, ih]
      rfl

theorem elementary?_congr (board : executor.board = other.board) (body : Body) :
    executor.elementary? body = other.elementary? body := by
  have copies := copyCards_congr service
  have moves := moveCards_congr service
  obtain ⟨program, _, _, limit⟩ := executor
  cases service
  cases board
  cases body with
  | take | order | filter | group | flow => rfl
  | act action =>
      apply congrArg some
      funext pipeline
      cases action with
      | print | add => rfl
      | copy target =>
          rw [act, act, copies]
          rfl
      | move target =>
          rw [act, act, moves]
          rfl

end

def threaded (meaning : String → Pipeline → Run σ Pipeline) (steps : List String)
    (pipeline : Pipeline) : Run σ Pipeline :=
  steps.foldlM (fun current step => meaning step current) pipeline

def separate (meaning : String → Pipeline → Run σ Pipeline) (steps : List String) :
    Run σ Pipeline := do
  let _ ← steps.foldlM (fun _ step => meaning step .start) Pipeline.start
  return .finished

/-- The meaning of a name, as a function of the pipeline that its task is given. -/
inductive Denotes (executor : Executor σ) : String → (Pipeline → Run σ Pipeline) → Prop where
  | undefined {name : String} :
      executor.program.body? name = none →
      Denotes executor name fun _ => Run.trouble (.taskMissing name)
  | elementary {name : String} {body : Body} {meaning : Pipeline → Run σ Pipeline} :
      executor.program.body? name = some body → executor.elementary? body = some meaning →
      Denotes executor name meaning
  | flow {name : String} {steps : List String} {meaning : String → Pipeline → Run σ Pipeline} :
      executor.program.body? name = some (.flow steps) →
      (∀ step ∈ steps, Denotes executor step (meaning step)) →
      Denotes executor name (threaded meaning steps)
  | group {name : String} {steps : List String} {meaning : String → Pipeline → Run σ Pipeline} :
      executor.program.body? name = some (.group steps) →
      (∀ step ∈ steps, Denotes executor step (meaning step)) →
      Denotes executor name fun _ => separate meaning steps

theorem foldlM_agree {turn other : Pipeline → String → Run σ Pipeline} {steps : List String}
    (same : ∀ step ∈ steps, ∀ pipeline, turn pipeline step = other pipeline step)
    (pipeline : Pipeline) : steps.foldlM turn pipeline = steps.foldlM other pipeline := by
  induction steps generalizing pipeline with
  | nil => rfl
  | cons step rest ih =>
      have onward (next : Pipeline) :=
        ih (fun later member => same later (List.mem_cons_of_mem _ member)) next
      simp only [List.foldlM_cons, same step List.mem_cons_self, onward]

namespace Denotes

variable {executor : Executor σ} {name : String} {meaning : Pipeline → Run σ Pipeline}

theorem of_missing (denotes : executor.Denotes name meaning)
    (missing : executor.program.body? name = none) :
    meaning = fun _ => Run.trouble (.taskMissing name) := by
  cases denotes with
  | undefined => rfl
  | elementary found | flow found | group found => simp [missing] at found

theorem of_elementary (denotes : executor.Denotes name meaning) {body : Body}
    {single : Pipeline → Run σ Pipeline} (found : executor.program.body? name = some body)
    (alone : executor.elementary? body = some single) : meaning = single := by
  cases denotes with
  | undefined missing => simp [missing] at found
  | elementary same alone' =>
      rw [found] at same
      cases same
      rw [alone] at alone'
      exact (Option.some.inj alone').symm
  | flow same | group same =>
      rw [found] at same
      cases same
      cases alone

theorem of_flow (denotes : executor.Denotes name meaning) {steps : List String}
    (found : executor.program.body? name = some (.flow steps)) :
    ∃ meanings, meaning = threaded meanings steps ∧
      ∀ step ∈ steps, executor.Denotes step (meanings step) := by
  cases denotes with
  | undefined missing => simp [missing] at found
  | elementary same alone =>
      rw [found] at same
      cases same
      cases alone
  | flow same parts =>
      rw [found] at same
      cases same
      exact ⟨_, rfl, parts⟩
  | group same =>
      rw [found] at same
      cases same

theorem of_group (denotes : executor.Denotes name meaning) {steps : List String}
    (found : executor.program.body? name = some (.group steps)) :
    ∃ meanings, (meaning = fun _ => separate meanings steps) ∧
      ∀ step ∈ steps, executor.Denotes step (meanings step) := by
  cases denotes with
  | undefined missing => simp [missing] at found
  | elementary same alone =>
      rw [found] at same
      cases same
      cases alone
  | flow same =>
      rw [found] at same
      cases same
  | group same parts =>
      rw [found] at same
      cases same
      exact ⟨_, rfl, parts⟩

end Denotes

theorem threaded_congr {meanings others : String → Pipeline → Run σ Pipeline}
    {steps : List String} (same : ∀ step ∈ steps, meanings step = others step) :
    threaded meanings steps = threaded others steps := by
  funext pipeline
  exact foldlM_agree (fun step member current => congrFun (same step member) current) pipeline

theorem separate_congr {meanings others : String → Pipeline → Run σ Pipeline}
    {steps : List String} (same : ∀ step ∈ steps, meanings step = others step) :
    separate meanings steps = separate others steps := by
  rw [separate, foldlM_agree fun step member _ => congrFun (same step member) .start]
  rfl

theorem Denotes.unique {executor : Executor σ} {name : String}
    {meaning : Pipeline → Run σ Pipeline} (denotes : executor.Denotes name meaning) :
    ∀ other, executor.Denotes name other → other = meaning := by
  induction denotes with
  | undefined missing => exact fun other denotes => denotes.of_missing missing
  | elementary found alone => exact fun other denotes => denotes.of_elementary found alone
  | flow found parts ih =>
      intro other denotes
      obtain ⟨others, rfl, parts'⟩ := denotes.of_flow found
      exact threaded_congr fun step member => ih step member _ (parts' step member)
  | group found parts ih =>
      intro other denotes
      obtain ⟨others, rfl, parts'⟩ := denotes.of_group found
      rw [separate_congr fun step member => ih step member _ (parts' step member)]

theorem exists_denotes (executor : Executor σ) (bound : Nat) {name : String}
    (short : ∀ names, executor.program.Chain name names → names.length ≤ bound) :
    ∃ meaning, executor.Denotes name meaning := by
  induction bound generalizing name with
  | zero => exact absurd (short [name] (.single name)) (by simp)
  | succ bound ih =>
      have referred (step : String) : ∃ meaning, step ∈ executor.program.references name →
          executor.Denotes step meaning := by
        by_cases reference : step ∈ executor.program.references name
        · obtain ⟨meaning, denotes⟩ := ih fun names chain => by
            simpa using short (name :: names) (.step reference chain)
          exact ⟨meaning, fun _ => denotes⟩
        · exact ⟨fun _ => Run.trouble (.taskMissing step), fun member => absurd member reference⟩
      obtain ⟨meanings, denotes⟩ := Classical.skolem.mp referred
      cases found : executor.program.body? name with
      | none => exact ⟨_, .undefined found⟩
      | some body =>
          rw [Program.references_of_body found] at denotes
          cases body with
          | take | order | filter | act => exact ⟨_, .elementary found rfl⟩
          | group steps => exact ⟨_, .group found denotes⟩
          | flow steps => exact ⟨_, .flow found denotes⟩

end Executor

/-- No chain of references from a name, behind the tasks under way, repeats a name or has too many
of them. -/
def Program.Fits (program : Program) (maxDepth : Int) (underWay : List String) (name : String) :
    Prop :=
  ∀ names, program.Chain name names →
    (underWay ++ names).Nodup ∧ ((underWay ++ names).length : Int) ≤ maxDepth

namespace Program.Fits

variable {program : Program} {maxDepth : Int} {underWay : List String} {name : String}

theorem outside (fits : program.Fits maxDepth underWay name) : name ∉ underWay := by
  intro inside
  have distinct := (fits [name] (.single name)).1
  exact (List.nodup_append.mp distinct).2.2 _ inside _ (by simp) rfl

theorem free (fits : program.Fits maxDepth underWay name) :
    (DepthLimit.ofTree (.int maxDepth)).reachedAt? underWay.length = some false := by
  have short := (fits [name] (.single name)).2
  simp only [List.length_append, List.length_singleton] at short
  simp only [DepthLimit.reachedAt?_ofInt, Option.some.injEq, decide_eq_false_iff_not]
  omega

theorem of_reference (fits : program.Fits maxDepth underWay name) {next : String}
    (reference : next ∈ program.references name) :
    program.Fits maxDepth (underWay ++ [name]) next := by
  intro names chain
  simpa using fits (name :: names) (.step reference chain)

theorem of_rank (rank : String → Nat)
    (falls : ∀ task ∈ program.tasks, ∀ next ∈ task.2.references, rank next < rank task.1)
    (room : (rank name + 1 : Nat) ≤ maxDepth) : program.Fits maxDepth [] name := by
  intro names chain
  have bounds : (∀ other ∈ names, rank other ≤ rank name) ∧ names.Nodup ∧
      names.length ≤ rank name + 1 := by
    clear room
    induction chain with
    | single name => simp
    | @step name next rest reference chain ih =>
        obtain ⟨lower, distinct, short⟩ := ih
        obtain ⟨body, defined, referred⟩ := Program.mem_tasks_of_reference reference
        have down : rank next < rank name := falls _ defined next referred
        have below : ∀ other ∈ rest, rank other < rank name := by
          intro other member
          have := lower other member
          omega
        refine ⟨?_, List.nodup_cons.mpr ⟨?_, distinct⟩, ?_⟩
        · intro other member
          rcases List.mem_cons.mp member with rfl | member
          · exact Nat.le_refl _
          · exact Nat.le_of_lt (below other member)
        · intro again
          exact Nat.lt_irrefl _ (below name again)
        · simp only [List.length_cons]
          omega
  rw [List.nil_append]
  exact ⟨bounds.2.1, by omega⟩

end Program.Fits

namespace Executor

theorem inTurn_sameWork {perform : Entrance → String → Run σ Pipeline}
    {announce : String → String} {entrance : Pipeline → Entrance}
    {turn : Pipeline → String → Run σ Pipeline} {steps : List String} (pipeline : Pipeline)
    (same : ∀ step ∈ steps, ∀ current,
      (perform (entrance current) step).SameWork (turn current step)) :
    (inTurn perform announce entrance steps pipeline).SameWork (steps.foldlM turn pipeline) := by
  induction steps generalizing pipeline with
  | nil => exact fun world twin agrees => ⟨rfl, agrees⟩
  | cons step rest ih =>
      have onward (next : Pipeline) :=
        ih next fun later member => same later (List.mem_cons_of_mem _ member)
      rw [List.foldlM_cons]
      apply Run.SameWork.emit_first (by simp [Event.info, Event.isLog])
      exact (same step List.mem_cons_self pipeline).bind onward

theorem evaluate_elementary {executor : Executor σ} {body : Body}
    {meaning : Pipeline → Run σ Pipeline} (alone : executor.elementary? body = some meaning)
    (perform : Entrance → String → Run σ Pipeline) (pipeline : Pipeline) :
    executor.evaluate perform body pipeline = meaning pipeline ∧ body.references = [] := by
  cases body with
  | take | order | filter | act =>
      cases alone
      exact ⟨rfl, rfl⟩
  | group steps | flow steps => cases alone

theorem elementary_sameWork {executor : Executor σ} {body : Body}
    {meaning : Pipeline → Run σ Pipeline} (alone : executor.elementary? body = some meaning)
    (perform : Entrance → String → Run σ Pipeline) (pipeline : Pipeline) :
    (executor.evaluate perform body pipeline).SameWork (meaning pipeline) := by
  obtain ⟨equal, leaf⟩ := evaluate_elementary alone perform pipeline
  rw [← equal]
  exact .of_alike (leaf_alike executor perform leaf pipeline)

section

variable {executor : Executor σ} {maxDepth : Int}
  (bounded : executor.limit = .ofTree (.int maxDepth))
include bounded

theorem enter_sameWork {underWay : List String} {entrance : Entrance} {name : String} {body : Body}
    {other : Run σ Pipeline} (fits : executor.program.Fits maxDepth underWay name)
    (found : executor.program.body? name = some body)
    (same : (executor.evaluate (executor.enter (underWay ++ [name])) body
      entrance.pipeline).SameWork other) :
    (executor.enter underWay entrance name).SameWork other := by
  intro world twin agrees
  have begun := entrance.begin_apply name world
  have free := fits.free
  rw [← bounded] at free
  rw [executor.enter_evaluates found begun fits.outside free]
  refine same _ twin ⟨agrees.service, agrees.draws, ?_⟩
  have silent : (entrance.announcement name).filter (!·.isLog) = [] := by
    cases entrance <;> rfl
  rw [List.filter_append, silent, List.append_nil]
  exact agrees.calls

theorem enter_does_what_it_means {name : String} {meaning : Pipeline → Run σ Pipeline}
    (denotes : executor.Denotes name meaning) {underWay : List String} (entrance : Entrance)
    (fits : executor.program.Fits maxDepth underWay name) :
    (executor.enter underWay entrance name).SameWork (meaning entrance.pipeline) := by
  induction denotes generalizing underWay entrance with
  | undefined missing =>
      rw [executor.enter_missing missing]
      exact fun world twin agrees => ⟨rfl, agrees⟩
  | elementary found alone =>
      exact enter_sameWork bounded fits found (elementary_sameWork alone _ _)
  | @flow name steps meanings found parts ih =>
      apply enter_sameWork bounded fits found
      apply inTurn_sameWork entrance.pipeline
      intro step member current
      apply ih step member (.continuing current)
      apply fits.of_reference
      rwa [Program.references_of_body found]
  | @group name steps meanings found parts ih =>
      apply enter_sameWork bounded fits found
      refine Run.SameWork.bind (inTurn_sameWork .start ?_) fun _ world twin agrees => ⟨rfl, agrees⟩
      intro step member current
      apply ih step member .fresh
      apply fits.of_reference
      rwa [Program.references_of_body found]

theorem run_does_what_it_means {name : String} (fits : executor.program.Fits maxDepth [] name) :
    ∃ meaning, executor.Denotes name meaning ∧ (executor.run name).SameWork (meaning .start) := by
  obtain ⟨meaning, denotes⟩ := executor.exists_denotes maxDepth.toNat fun names chain => by
    have short := (fits names chain).2
    rw [List.nil_append] at short
    omega
  exact ⟨meaning, denotes, enter_does_what_it_means bounded denotes .fresh fits⟩

end

end Executor

end Kanban
