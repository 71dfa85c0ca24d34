import Kanban.Proofs.Executor.Meaning
import Kanban.Proofs.Executor.Visits
import Kanban.Proofs.Run.Cut
import Mathlib.Data.List.Perm.Subperm

namespace Kanban

/-- Tasks that can be under way inside one another. -/
structure Program.Nests (program : Program) (underWay : List String) : Prop where
  distinct : underWay.Nodup
  defined : ∀ name ∈ underWay, name ∈ program.tableNames

namespace Program.Nests

variable {program : Program} {underWay : List String} {name : String} {body : Body}

theorem nil : program.Nests [] :=
  ⟨List.nodup_nil, nofun⟩

theorem snoc (nests : program.Nests underWay) (found : program.body? name = some body)
    (outside : name ∉ underWay) : program.Nests (underWay ++ [name]) := by
  constructor
  · exact List.nodup_append.mpr
      ⟨nests.distinct, by simp, fun _ member _ single => by grind⟩
  · intro other member
    rcases List.mem_append.mp member with member | single
    · exact nests.defined other member
    · rw [List.mem_singleton.mp single]
      exact body?_mem found

theorem length_le (nests : program.Nests underWay) : underWay.length ≤ program.size := by
  have inside : underWay.Subperm program.tableNames := nests.distinct.subperm nests.defined
  have short := inside.length_le
  rwa [tableNames, List.length_map] at short

theorem length_lt (nests : program.Nests underWay) (found : program.body? name = some body)
    (outside : name ∉ underWay) : underWay.length < program.size := by
  have short := (nests.snoc found outside).length_le
  rwa [List.length_append, List.length_singleton] at short

end Program.Nests

theorem DepthLimit.reachedAt?_roomy {size : Nat} {count : Int} (roomy : size ≤ count) :
    ∀ depth < size, (ofTree (.int count)).reachedAt? depth = some false := by
  intro depth below
  simp only [reachedAt?_ofInt, Option.some.injEq, decide_eq_false_iff_not]
  omega

theorem Number.isWritable_neg_tooLong : isWritable (-(tooLong : Int)) = false := by
  rw [isWritable_neg, isWritable, Int.natAbs_natCast]
  exact decide_eq_false (Nat.lt_irrefl tooLong)

namespace Failure

variable {count : Int}

theorem tooDeep_writable (writable : Number.isWritable count = true) (name : String) :
    tooDeep (.ofTree (.int count)) name = .ofRun (.tooDeep (.levels count) name) := by
  rw [DepthLimit.ofTree, if_pos writable]
  rfl

theorem tooDeep_unwritable (long : Number.isWritable count = false) (name : String) :
    tooDeep (.ofTree (.int count)) name = .misuse .notANumeral := by
  have unwritten : (Tree.int count).isWritable = false := by
    simpa [Tree.isWritable] using long
  rw [DepthLimit.ofTree, if_neg (by simp [long]), tooDeep]
  simp [showing, unwritten]

end Failure

namespace Executor

section

variable {executor other : Executor σ} {perform follow : Entrance → String → Run σ Pipeline}

theorem evaluate_congr (service : executor.service = other.service)
    (board : executor.board = other.board) (perform : Entrance → String → Run σ Pipeline)
    (body : Body) : executor.evaluate perform body = other.evaluate perform body := by
  funext pipeline
  have same := elementary?_congr service board body
  cases alone : executor.elementary? body with
  | some meaning =>
      rw [(evaluate_elementary alone perform pipeline).1]
      rw [same] at alone
      rw [(evaluate_elementary alone perform pipeline).1]
  | none =>
      cases body with
      | take | order | filter | act => cases alone
      | group | flow => rfl

theorem inTurn_cut {cuts : Failure → Prop} {announce : String → String}
    {entrance : Pipeline → Entrance} {steps : List String} (pipeline : Pipeline)
    (cut : ∀ entrance, ∀ step ∈ steps,
      Run.Cut cuts (perform entrance step) (follow entrance step)) :
    Run.Cut cuts (inTurn perform announce entrance steps pipeline)
      (inTurn follow announce entrance steps pipeline) := by
  induction steps generalizing pipeline with
  | nil => exact .pure pipeline
  | cons step rest ih =>
      apply Run.Cut.bind (.emit _)
      intro announced
      apply Run.Cut.bind (cut _ step List.mem_cons_self)
      intro next
      exact ih next fun entrance later member => cut entrance later (List.mem_cons_of_mem _ member)

theorem evaluate_cut (executor : Executor σ) {cuts : Failure → Prop} (body : Body)
    (pipeline : Pipeline)
    (cut : ∀ entrance, ∀ step ∈ body.references,
      Run.Cut cuts (perform entrance step) (follow entrance step)) :
    Run.Cut cuts (executor.evaluate perform body pipeline)
      (executor.evaluate follow body pipeline) := by
  cases alone : executor.elementary? body with
  | some meaning =>
      obtain ⟨means, leaf⟩ := evaluate_elementary alone perform pipeline
      rw [(evaluate_elementary alone follow pipeline).1, ← means]
      exact .of_alike (leaf_alike executor perform leaf pipeline)
  | none =>
      cases body with
      | take | order | filter | act => cases alone
      | flow steps => exact inTurn_cut pipeline cut
      | group steps =>
          apply Run.Cut.bind (inTurn_cut .start cut)
          intro last
          exact .pure Pipeline.finished

end

def withLimit (executor : Executor σ) (limit : DepthLimit) : Executor σ :=
  { executor with limit := limit }

section

variable (executor : Executor σ) (limit : DepthLimit) {underWay : List String}
  {entrance : Entrance} {name : String} {body : Body}

theorem withLimit_missing (missing : executor.program.body? name = none) :
    (executor.withLimit limit).enter underWay entrance name = Run.trouble (.taskMissing name) :=
  (executor.withLimit limit).enter_missing missing

theorem withLimit_found (found : executor.program.body? name = some body) :
    (executor.withLimit limit).enter underWay entrance name = (do
      let pipeline ← entrance.begin name
      if name ∈ underWay then
        Run.trouble (.selfReference name underWay)
      else
        match limit.reachedAt? underWay.length with
        | none => Run.misuse .wrongKind
        | some true => Run.fail (.tooDeep limit name)
        | some false =>
            executor.evaluate ((executor.withLimit limit).enter (underWay ++ [name])) body
              pipeline) := by
  have evaluates (perform : Entrance → String → Run σ Pipeline) :
      (executor.withLimit limit).evaluate perform body = executor.evaluate perform body := by
    apply evaluate_congr
    · rfl
    · rfl
  rw [(executor.withLimit limit).enter_found found]
  simp only [evaluates]
  rfl

end

/-- The failures at a depth that the limit does not allow. -/
def DepthCuts (limit : DepthLimit) (failure : Failure) : Prop :=
  ∃ name, failure = .tooDeep limit name

theorem enter_cut (executor : Executor σ) {count deeper : Int} (above : count ≤ deeper)
    (underWay : List String) (entrance : Entrance) (name : String) :
    Run.Cut (DepthCuts (.ofTree (.int count)))
      ((executor.withLimit (.ofTree (.int count))).enter underWay entrance name)
      ((executor.withLimit (.ofTree (.int deeper))).enter underWay entrance name) := by
  induction underWay, entrance, name using enter.induct executor with
  | case1 underWay entrance name missing =>
      rw [withLimit_missing executor _ missing, withLimit_missing executor _ missing]
      exact .same fun _ => List.prefix_rfl
  | case2 underWay entrance name body found ih =>
      rw [withLimit_found executor _ found, withLimit_found executor _ found]
      apply Run.Cut.bind
      · apply Run.Cut.same
        intro world
        rw [Entrance.begin_apply]
        exact List.prefix_append _ _
      · intro pipeline
        by_cases inside : name ∈ underWay
        · simp only [if_pos inside]
          exact .same fun _ => List.prefix_rfl
        · have evaluated := evaluate_cut executor body pipeline fun entrance step _ =>
            ih inside entrance step
          simp only [if_neg inside, DepthLimit.reachedAt?_ofInt]
          by_cases full : count ≤ underWay.length
          · simp only [full, decide_true]
            split
            next => exact .fail ⟨name, rfl⟩ fun _ => List.prefix_rfl
            next => exact .fail ⟨name, rfl⟩ fun _ => List.prefix_rfl
            next => exact .fail ⟨name, rfl⟩ evaluated.grows
          · have room : ¬ deeper ≤ underWay.length := by omega
            simp only [full, room, decide_false]
            exact evaluated

theorem enter_roomy (executor : Executor σ) {limit other : DepthLimit}
    (free : ∀ depth < executor.program.size, limit.reachedAt? depth = some false)
    (otherFree : ∀ depth < executor.program.size, other.reachedAt? depth = some false)
    (underWay : List String) (entrance : Entrance) (name : String)
    (nests : executor.program.Nests underWay) :
    (executor.withLimit limit).enter underWay entrance name =
      (executor.withLimit other).enter underWay entrance name := by
  induction underWay, entrance, name using enter.induct executor with
  | case1 underWay entrance name missing =>
      rw [withLimit_missing executor _ missing, withLimit_missing executor _ missing]
  | case2 underWay entrance name body found ih =>
      rw [withLimit_found executor _ found, withLimit_found executor _ found]
      by_cases inside : name ∈ underWay
      · simp only [if_pos inside]
      · have short := nests.length_lt found inside
        have onward : (executor.withLimit limit).enter (underWay ++ [name]) =
            (executor.withLimit other).enter (underWay ++ [name]) := by
          funext entrance step
          exact ih inside entrance step (nests.snoc found inside)
        simp only [if_neg inside, free _ short, otherFree _ short, onward]

theorem enter_not_tooDeep (executor : Executor σ) {limit : DepthLimit}
    (free : ∀ depth < executor.program.size, limit.reachedAt? depth = some false)
    (service : executor.service.FailsOnlyWith Failure.IsOfBoard) (underWay : List String)
    (entrance : Entrance) (name : String) (nests : executor.program.Nests underWay)
    {world later : World σ} {named : DepthLimit} {last : String} :
    (executor.withLimit limit).enter underWay entrance name world ≠
      (.error (.ofRun (.tooDeep named last)), later) := by
  intro failed
  induction underWay, entrance, name using enter.induct executor generalizing world later with
  | case1 underWay entrance name missing =>
      rw [withLimit_missing executor _ missing] at failed
      cases failed
  | case2 underWay entrance name body found ih =>
      have entering := (executor.withLimit limit).enter_entering underWay entrance name world
      generalize (executor.withLimit limit).enter underWay entrance name world = ended
        at entering failed
      cases entering with
      | missing | repeated | incomparable => cases failed
      | tooDeep _ _ outside full =>
          have room : limit.reachedAt? underWay.length = some false :=
            free _ (nests.length_lt found outside)
          have full : limit.reachedAt? underWay.length = some true := full
          rw [room] at full
          cases full
      | evaluated same _ outside _ =>
          have same : executor.program.body? name = _ := same
          rw [found] at same
          cases same
          rcases evaluate_failed failed with ⟨next, _, entrance, before, failed⟩ | own
          · exact ih outside entrance next (nests.snoc found outside) failed
          · refine absurd rfl (own (· ≠ .ofRun (.tooDeep named last)) ?_ ?_)
            · rintro _ (_ | _ | _ | _) same <;> cases same
            · rintro α call state failure given rfl
              exact absurd (service call state _ given .cycle rfl) (by simp)

theorem visited_nests {executor : Executor σ} {limit : DepthLimit} {root : String}
    {start : World σ} {underWay : List String} {entrance : Entrance} {name : String}
    {moment : World σ}
    (visited : (executor.withLimit limit).Visited root start underWay entrance name moment) :
    executor.program.Nests underWay := by
  induction visited with
  | root => exact .nil
  | step visited found begins outside free calls ih => exact ih.snoc found outside

/-- A limit that cannot be written out is not named when it is reached. -/
theorem run_unwritable (executor : Executor σ) {count : Int} (reached : count ≤ 0)
    (long : Number.isWritable count = false) {name : String} {body : Body}
    (found : executor.program.body? name = some body) (start : World σ) :
    ((executor.withLimit (.ofTree (.int count))).run name start).1 =
      .error (.misuse .notANumeral) := by
  have full : (DepthLimit.ofTree (.int count)).reachedAt? 0 = some true := by
    simpa using reached
  rw [run, withLimit_found executor _ found,
    Run.bind_of_ok (Entrance.begin_apply .fresh name start)]
  simp only [List.not_mem_nil, if_false, List.length_nil, full, Run.fail_apply,
    Failure.tooDeep_unwritable long]

/-- Of two limits the lower one lets a run go a part of the way that it goes with the other, and all
of it unless it is refused for its depth.  Where the program has no more tasks than the lower limit
allows, this never happens; with any limit, no more tasks are under way than the program has. -/
theorem lower_limits_cut_short (executor : Executor σ) (name : String) (start : World σ)
    {count deeper : Int} (above : count ≤ deeper) :
    let limited := executor.withLimit (.ofTree (.int count))
    let short := limited.run name start
    let long := (executor.withLimit (.ofTree (.int deeper))).run name start
    (∃ events more, short.2.trace = start.trace ++ events ∧
      long.2.trace = start.trace ++ (events ++ more)) ∧
    (Number.isWritable count →
      (∀ last, short.1 ≠ .error (.ofRun (.tooDeep (.levels count) last))) → short = long) ∧
    (executor.program.size ≤ count → short = long ∧
      (executor.service.FailsOnlyWith Failure.IsOfBoard →
        ∀ limit last, short.1 ≠ .error (.ofRun (.tooDeep limit last)))) ∧
    (∀ underWay entrance task moment, limited.Visited name start underWay entrance task moment →
      underWay.Nodup ∧ (∀ other ∈ underWay, other ∈ executor.program.tableNames) ∧
        underWay.length ≤ executor.program.size) ∧
    Memory.service.FailsOnlyWith Failure.IsOfBoard ∧
    ∀ (client : Trello) (τ : Type) (transport : Transport τ),
      (client.service transport).FailsOnlyWith Failure.IsOfBoard := by
  intro limited short long
  have cut := enter_cut executor above [] .fresh name
  refine ⟨?_, ?_, ?_, ?_, Memory.service_fails,
    fun client _ transport => client.service_fails transport⟩
  · exact cut.traces start
  · intro writable complete
    apply cut.complete
    intro failure cutting
    obtain ⟨last, tooDeep⟩ := cutting
    rw [tooDeep, Failure.tooDeep_writable writable]
    exact complete last
  · intro roomy
    have free := DepthLimit.reachedAt?_roomy roomy
    have otherFree := DepthLimit.reachedAt?_roomy (Int.le_trans roomy above)
    have same := enter_roomy executor free otherFree [] .fresh name .nil
    refine ⟨congrFun same start, fun service limit last refused => ?_⟩
    exact enter_not_tooDeep executor free service [] .fresh name .nil (Prod.ext refused rfl)
  · intro underWay entrance task moment visited
    have nests := visited_nests visited
    exact ⟨nests.distinct, nests.defined, nests.length_le⟩

/-- Two tasks that refer to each other: the limit one refuses the second task, and from the limit
two on the first one is found under way again. -/
theorem lower_limits_cut_short_of_loop :
    let executor : Executor Memory :=
      { program := { board := "ENG", tasks := [("a", .flow ["b"]), ("b", .group ["a"])] }
        service := Memory.service
        board := .text "b1"
        limit := .standard }
    let start : World Memory := { service := {}, draws := { number := fun _ => 0 } }
    let ended (count : Int) := (executor.withLimit (.ofTree (.int count))).run "a" start
    (1 : Int) ≤ 2 ∧ (ended 1).1 = .error (.ofRun (.tooDeep (.levels 1) "b")) ∧
      (ended 2).1 = .error (.ofRun (.selfReference "a" ["a", "b"])) ∧
      (∃ events more, (ended 1).2.trace = events ∧ (ended 2).2.trace = events ++ more) ∧
      ∀ deeper, 2 ≤ deeper → ended 2 = ended deeper := by
  intro executor start ended
  have first : executor.program.body? "a" = some (.flow ["b"]) := by rfl
  have second : executor.program.body? "b" = some (.group ["a"]) := by rfl
  have writable : Number.isWritable 1 = true := by decide +kernel
  have tooDeep : (ended 1).1 = .error (.ofRun (.tooDeep (.levels 1) "b")) := by
    simp [ended, run, withLimit_found, first, second, evaluate, flow, inTurn,
      Entrance.begin_apply, Run.bind_apply, Run.info, Failure.tooDeep_writable writable]
  have again : (ended 2).1 = .error (.ofRun (.selfReference "a" ["a", "b"])) := by
    simp [ended, run, withLimit_found, first, second, evaluate, flow, group, inTurn,
      Entrance.begin_apply, Run.bind_apply, Run.map_apply, Run.info, Run.trouble]
  have short : (1 : Int) ≤ 2 := by decide
  obtain ⟨events, more, told, toldOn⟩ := (lower_limits_cut_short executor "a" start short).1
  refine ⟨short, tooDeep, again, ⟨events, more, told, toldOn⟩, fun deeper above => ?_⟩
  exact ((lower_limits_cut_short executor "a" start above).2.2.1 (Int.le_refl 2)).1

/-- With a limit below zero that is too long to be written, a run is not refused for its depth in so
many words, but it does not go the way that it goes with a higher limit either. -/
theorem unwritable_limit_differs :
    let executor : Executor Memory :=
      { program := { board := "ENG", tasks := [("all", .take .board 0 .top)] }
        service := Memory.service
        board := .text "b1"
        limit := .standard }
    let start : World Memory := { service := {}, draws := { number := fun _ => 0 } }
    let ended (count : Int) := (executor.withLimit (.ofTree (.int count))).run "all" start
    let count := -(Number.tooLong : Int)
    count ≤ 1 ∧ (∀ limit last, (ended count).1 ≠ .error (.ofRun (.tooDeep limit last))) ∧
      (ended count).1 = .error (.misuse .notANumeral) ∧ (ended 1).1 = .ok (.holding []) := by
  intro executor start ended count
  have all : executor.program.body? "all" = some (.take .board 0 .top) := by rfl
  have below : count ≤ 0 := Int.neg_nonpos_of_nonneg (Int.natCast_nonneg _)
  have refused : (ended count).1 = .error (.misuse .notANumeral) :=
    run_unwritable executor below Number.isWritable_neg_tooLong all start
  refine ⟨Int.le_trans below (by decide), ?_, refused, ?_⟩
  · rw [refused]
    nofun
  · simp [ended, run, withLimit_found, all, evaluate, take, sourceCards, fetch,
      Entrance.begin_apply, Run.bind_apply, Run.map_apply]
    rfl

end Executor

end Kanban
