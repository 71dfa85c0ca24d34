import Kanban.Proofs.Draws.Ample
import Kanban.Proofs.Executor.Choosing
import Kanban.Proofs.Executor.Depth
import Kanban.Proofs.Executor.Guarded
import Kanban.Proofs.Executor.InMemory
import Kanban.Proofs.Executor.Taking
import Kanban.Proofs.Executor.Visits
import Kanban.Proofs.Program.Insertion
import Kanban.Proofs.Program.Loading
import Kanban.Proofs.Service.Memory.Named

namespace Kanban.Executor

open Draws (distinctFrom?)
open Memory (CardsNamed)

abbrev Unstuck (good : α → Prop) (run : Run Memory α) : Prop :=
  Run.Safe Memory.Named Failure.IsOfRun good run

def PipeNamed (pipeline : Pipeline) : Prop :=
  CardsNamed pipeline.items

variable (program : Program) (board : Tree) (limit : DepthLimit)

theorem trouble_unstuck {good : α → Prop} (cause : RunTrouble) :
    Unstuck good (Run.trouble cause : Run Memory α) :=
  .fail ⟨cause, rfl⟩

theorem read_unstuck (call : Service.Call α) (read : call.recorded.isWrite = false) :
    Unstuck (fun _ => True) (Run.ask (Memory.service.answer call)) := by
  refine Memory.ask_safe call (fun draft same => ?_) fun memory _ => ?_
  · rw [same] at read
    cases read
  · cases call with
    | boards | columns | cards | cardsIn | labels => trivial
    | create | move => cases read

theorem column_unstuck (name : String) :
    Unstuck (fun _ => True) ((inMemory program board limit).column name) := by
  have found : Unstuck (fun _ => True) (Memory.service.findColumn board (.text name)) :=
    .bind (read_unstuck (.columns board) rfl) fun _ _ => .pure trivial
  refine .bind found fun column _ => ?_
  cases column with
  | some column => exact .pure trivial
  | none => exact trouble_unstuck _

theorem pipeCards_unstuck {pipeline : Pipeline} (named : PipeNamed pipeline) :
    Unstuck CardsNamed (pipeCards pipeline) := by
  refine .ofExcept ?_
  unfold Pipeline.cards
  split
  · exact named
  · exact ⟨_, rfl⟩

theorem sourceCards_unstuck (source : Source) {pipeline : Pipeline} (named : PipeNamed pipeline) :
    Unstuck CardsNamed ((inMemory program board limit).sourceCards source pipeline) := by
  have fetched : Unstuck CardsNamed ((inMemory program board limit).fetch source pipeline) := by
    cases source with
    | pipe => exact pipeCards_unstuck named
    | board =>
        exact Memory.ask_safe (.cards board) nofun fun _ boardNamed => boardNamed.cardsOf board
    | column name =>
        refine .bind (column_unstuck program board limit name) fun column _ => ?_
        exact Memory.ask_safe (.cardsIn column.id) nofun fun _ boardNamed =>
          boardNamed.cardsInColumn column.id
  exact .bind fetched fun cards cardsNamed => .bind (.emit _) fun _ _ => .pure cardsNamed

theorem landing_unstuck (place : Place) (columnId : Tree) :
    Unstuck (fun _ => True) ((inMemory program board limit).landing place columnId) := by
  cases place with
  | top | bottom => exact .pure trivial
  | random =>
      refine .bind (read_unstuck (.cardsIn columnId) rfl) fun cards _ => ?_
      exact .bind (.drawAny _) fun _ _ => .pure trivial

theorem pick_subset (cards : List Card) (indices : List Nat) : pick cards indices ⊆ cards := by
  intro card member
  obtain ⟨index, _, found⟩ := List.mem_filterMap.mp member
  exact List.mem_of_getElem? found

theorem take_unstuck (source : Source) (size : Nat) (place : Place) {pipeline : Pipeline}
    (named : PipeNamed pipeline) :
    Unstuck PipeNamed ((inMemory program board limit).take source size place pipeline) := by
  refine .bind (sourceCards_unstuck program board limit source named) fun cards cardsNamed => ?_
  have among {chosen : List Card} (subset : chosen ⊆ cards) : PipeNamed (.holding chosen) :=
    fun card member => cardsNamed card (subset member)
  dsimp only
  split
  · refine .bind (.emit _) fun _ _ => ?_
    cases place with
    | top => exact .pure (among (List.take_subset _ _))
    | bottom => exact .pure (among (List.drop_subset _ _))
    | random =>
        exact .bind (.drawAny _) fun indices _ => .pure (among (pick_subset _ indices))
  · exact .pure cardsNamed

theorem sortByName_named {cards : List Card} (named : CardsNamed cards) :
    sortByName cards = .ok (cards.mergeSort nameAtMost) :=
  if_pos (List.all_eq_true.mpr named)

theorem order_unstuck (kind : OrderKind) (source : Source) {pipeline : Pipeline}
    (named : PipeNamed pipeline) :
    Unstuck PipeNamed ((inMemory program board limit).order kind source pipeline) := by
  refine .bind (sourceCards_unstuck program board limit source named) fun cards cardsNamed =>
    .bind (.emit _) fun _ _ => ?_
  have arranged {others : List Card} (perm : others.Perm cards) : PipeNamed (.holding others) :=
    fun card member => cardsNamed card (perm.subset member)
  cases kind with
  | shuffle =>
      refine .bind (.draw fun draws => arranged (draws.shuffle_perm cards)) fun shuffled named => ?_
      exact .pure named
  | sort =>
      rw [sortByName_named cardsNamed]
      exact .pure (arranged (List.mergeSort_perm cards nameAtMost))
  | reverse => exact .pure (arranged (List.reverse_perm cards))

theorem folded_text {value : Tree} (text : value.isText) :
    ∃ name, Service.folded value = .ok name := by
  cases value with
  | text name => exact ⟨_, rfl⟩
  | _ => cases text

theorem keepFolded_named (wanted : String) {cards : List Card} (named : CardsNamed cards) :
    ∃ kept, keepFolded wanted cards = .ok kept := by
  induction cards with
  | nil => exact ⟨[], rfl⟩
  | cons card rest ih =>
      obtain ⟨name, folded⟩ := folded_text (named card List.mem_cons_self)
      obtain ⟨kept, others⟩ := ih fun other member => named other (List.mem_cons_of_mem _ member)
      simp only [keepFolded, folded, others, bind, Except.bind]
      exact ⟨_, rfl⟩

theorem keepNamed_named (value : String) (caseSensitive : Bool) {cards : List Card}
    (named : CardsNamed cards) : ∃ kept, keepNamed value caseSensitive cards = .ok kept := by
  cases caseSensitive with
  | true => exact ⟨_, rfl⟩
  | false => exact keepFolded_named _ named

theorem labelNamed?_named (value : String) (caseSensitive : Bool) {labels : List Label}
    (named : ∀ label ∈ labels, label.name.isText) :
    ∃ found, Service.labelNamed? labels (.text value) caseSensitive = .ok found := by
  cases caseSensitive with
  | true => exact ⟨_, rfl⟩
  | false =>
      change ∃ found, Service.labelFolded? (.text value) labels = .ok found
      induction labels with
      | nil => exact ⟨none, rfl⟩
      | cons label rest ih =>
          obtain ⟨name, folded⟩ := folded_text (named label List.mem_cons_self)
          obtain ⟨found, later⟩ := ih fun other member =>
            named other (List.mem_cons_of_mem _ member)
          have wanted : Service.folded (.text value) = .ok (Text.caseFold value) := rfl
          simp only [Service.labelFolded?, folded, wanted, bind, Except.bind]
          split
          · exact ⟨_, rfl⟩
          · exact ⟨_, later⟩

theorem filter_unstuck (criterion : FilterBy) (value : String) (caseSensitive : Bool)
    {pipeline : Pipeline} (named : PipeNamed pipeline) :
    Unstuck PipeNamed
      ((inMemory program board limit).filter criterion value caseSensitive pipeline) := by
  refine .bind (pipeCards_unstuck named) fun cards cardsNamed => ?_
  have selected : Unstuck CardsNamed
      ((inMemory program board limit).select criterion value caseSensitive cards) := by
    cases criterion with
    | name =>
        obtain ⟨kept, done⟩ := keepNamed_named value caseSensitive cardsNamed
        rw [select, done]
        exact .pure fun card member => cardsNamed card ((keepNamed_sublist done).subset member)
    | label =>
        have labels : Unstuck (fun labels => ∀ label ∈ labels, label.name.isText)
            (Run.ask (Memory.service.labels board)) :=
          Memory.ask_safe (.labels board) nofun fun _ boardNamed => boardNamed.labelsOf board
        have found : Unstuck (fun _ => True)
            (Memory.service.findLabel board (.text value) caseSensitive) := by
          refine .bind labels fun labels labelsNamed => ?_
          obtain ⟨found, done⟩ := labelNamed?_named value caseSensitive labelsNamed
          rw [done]
          exact .pure trivial
        refine .bind found fun label _ => ?_
        cases label with
        | none => exact trouble_unstuck _
        | some label => exact .pure fun card member => cardsNamed card (List.mem_filter.mp member).1
  exact .bind selected fun kept keptNamed => .bind (.emit _) fun _ _ => .pure keptNamed

theorem copyCards_unstuck (target : Column) (place : Place) {cards : List Card}
    (named : CardsNamed cards) :
    Unstuck (fun _ => True) ((inMemory program board limit).copyCards target place cards) := by
  induction cards with
  | nil => exact .pure trivial
  | cons card rest ih =>
      refine .bind (landing_unstuck program board limit place target.id) fun landing _ => ?_
      refine .bind (Memory.create_safe (named card List.mem_cons_self) rfl) fun _ _ => ?_
      exact ih fun other member => named other (List.mem_cons_of_mem _ member)

theorem moveCards_unstuck (target : Column) (place : Place) (cards : List Card) :
    Unstuck (fun _ => True) ((inMemory program board limit).moveCards target place cards) := by
  induction cards with
  | nil => exact .pure trivial
  | cons card rest ih =>
      refine .bind (landing_unstuck program board limit place target.id) fun landing _ => ?_
      exact .bind (Memory.move_safe card.id target.id landing) fun _ _ => ih

theorem act_unstuck (action : Action) {pipeline : Pipeline} (named : PipeNamed pipeline) :
    Unstuck PipeNamed ((inMemory program board limit).act action pipeline) := by
  have finished : Unstuck PipeNamed (pure Pipeline.finished) := .pure nofun
  cases action with
  | print =>
      exact .bind (pipeCards_unstuck named) fun cards _ => .bind (.emit _) fun _ _ => .pure named
  | copy target =>
      refine .bind (column_unstuck program board limit target.column) fun column _ =>
        .bind (pipeCards_unstuck named) fun cards cardsNamed => .bind (.emit _) fun _ _ => ?_
      exact .bind (copyCards_unstuck program board limit column target.place cardsNamed)
        fun _ _ => finished
  | move target =>
      refine .bind (column_unstuck program board limit target.column) fun column _ =>
        .bind (pipeCards_unstuck named) fun cards cardsNamed => .bind (.emit _) fun _ _ => ?_
      exact .bind (moveCards_unstuck program board limit column target.place cards)
        fun _ _ => finished
  | add target card =>
      refine .bind (column_unstuck program board limit target.column) fun column _ =>
        .bind (.emit _) fun _ _ =>
        .bind (landing_unstuck program board limit target.place column.id) fun landing _ => ?_
      exact .bind (Memory.create_safe rfl rfl) fun _ _ => finished

section

variable {perform : Entrance → String → Run Memory Pipeline} {announce : String → String}

theorem inTurn_unstuck {entrance : Pipeline → Entrance} {steps : List String}
    {pipeline : Pipeline} (named : PipeNamed pipeline)
    (enters : ∀ pipeline, PipeNamed pipeline → PipeNamed (entrance pipeline).pipeline)
    (performs : ∀ entrance, PipeNamed entrance.pipeline → ∀ step ∈ steps,
      Unstuck PipeNamed (perform entrance step)) :
    Unstuck PipeNamed (inTurn perform announce entrance steps pipeline) := by
  induction steps generalizing pipeline with
  | nil => exact .pure named
  | cons step rest ih =>
      refine .bind (.emit _) fun _ _ =>
        .bind (performs _ (enters pipeline named) step List.mem_cons_self) fun next nextNamed => ?_
      exact ih nextNamed fun entrance named later member =>
        performs entrance named later (List.mem_cons_of_mem _ member)

theorem evaluate_unstuck (body : Body) {pipeline : Pipeline} (named : PipeNamed pipeline)
    (performs : ∀ entrance, PipeNamed entrance.pipeline → ∀ step ∈ body.references,
      Unstuck PipeNamed (perform entrance step)) :
    Unstuck PipeNamed ((inMemory program board limit).evaluate perform body pipeline) := by
  have start : PipeNamed .start := nofun
  cases body with
  | take source size place => exact take_unstuck program board limit source size place named
  | order kind source => exact order_unstuck program board limit kind source named
  | filter criterion value caseSensitive =>
      exact filter_unstuck program board limit criterion value caseSensitive named
  | act action => exact act_unstuck program board limit action named
  | flow steps => exact inTurn_unstuck named (fun _ given => given) performs
  | group steps =>
      exact .bind (inTurn_unstuck start (fun _ _ => start) performs) fun _ _ => .pure nofun

end

/-- The limit has to be told where tasks of the program can come to it. -/
theorem enter_unstuck {underWay : List String} (entrance : Entrance) (name : String)
    (compares : ∀ depth, ∃ full, limit.reachedAt? depth = some full)
    (told : ∀ depth < program.size, limit.reachedAt? depth = some true →
      ∀ name, Failure.IsOfRun (.tooDeep limit name))
    (nests : program.Nests underWay) (named : PipeNamed entrance.pipeline) :
    Unstuck PipeNamed ((inMemory program board limit).enter underWay entrance name) := by
  induction underWay, entrance, name using enter.induct (inMemory program board limit) with
  | case1 underWay entrance name missing =>
      rw [enter_missing _ missing]
      exact trouble_unstuck _
  | case2 underWay entrance name body found ih =>
      have begins : Unstuck (· = entrance.pipeline) (entrance.begin name) := by
        intro world kept
        rw [Entrance.begin_apply]
        exact ⟨rfl, kept⟩
      rw [enter_found _ found]
      refine .bind begins fun pipeline same => ?_
      rw [same]
      split
      next => exact trouble_unstuck _
      next outside =>
        obtain ⟨full, compared⟩ := compares underWay.length
        simp only [inMemory, compared]
        cases full with
        | true => exact .fail (told _ (nests.length_lt found outside) compared name)
        | false =>
            refine evaluate_unstuck program board limit body named fun entrance named step _ => ?_
            exact ih outside entrance step (nests.snoc found outside) named

theorem run_unstuck (count : Int) (name : String)
    (allowed : Number.isWritable count = true ∨ (program.size : Int) ≤ count) :
    Unstuck PipeNamed ((inMemory program board (.ofTree (.int count))).run name) := by
  refine enter_unstuck program board _ .fresh name ?_ ?_ .nil nofun
  · intro depth
    exact ⟨_, DepthLimit.reachedAt?_ofInt count depth⟩
  · intro depth below full name
    rcases allowed with writable | roomy
    · exact ⟨_, Failure.tooDeep_writable writable name⟩
    · rw [DepthLimit.reachedAt?_roomy roomy depth below] at full
      cases full

/-- Wherever a run comes to take some of the cards at random, so many different indices come up. -/
def DrawingsEnd (executor : Executor σ) (root : String) (start : World σ) : Prop :=
  ∀ {underWay entrance name source size cards} {moment entered sourced : World σ},
    executor.Visited root start underWay entrance name moment →
    executor.program.body? name = some (.take source size .random) →
    entrance.begin name moment = (.ok entrance.pipeline, entered) →
    executor.sourceCards source entrance.pipeline entered = (.ok cards, sourced) →
    size ≤ cards.length →
    ∃ indices rest, distinctFrom? cards.length size [] sourced.draws = some (indices, rest)

theorem drawings_end (root : String) {start : World Memory} (ample : start.draws.Ample) :
    (inMemory program board limit).DrawingsEnd root start := by
  intro underWay entrance name source size cards moment entered sourced visited _ begins given
    enough
  have reads : Run.Alike reading Memory.service Memory.service
      ((inMemory program board limit).sourceCards source entrance.pipeline)
      ((inMemory program board limit).sourceCards source entrance.pipeline) :=
    sourceCards_alike (inMemory program board limit) Memory.service (fun _ fault => fault) source
      entrance.pipeline
  obtain ⟨⟨before, reached⟩, _⟩ := visited.on_the_way
  obtain ⟨between, fetched⟩ := reads.leads entered
  rw [given] at fetched
  have onward := (reached.trans (begin_leads begins)).trans fetched
  exact (ample.movesOn onward.draws).ends enough

/-- A program that was loaded does not get stuck.  On a named board its runs give a pipeline or end
with trouble of one of four kinds, and where it draws, it does not draw for ever.  Each of its
bodies is what the grammar says of an entry of the document, with the size, column, target and card
that belong to it.  No draw is made from an empty range and no place is looked at that is not
there, for guards against this would change nothing. -/
theorem loaded_programs_are_unstuck {document : Tree} {arguments : Arguments}
    {caseSensitive : Bool} {program : Program}
    (loaded : Program.ofDocument document arguments caseSensitive = .ok program) (board : Tree)
    {count : Int} (allowed : Number.isWritable count = true ∨ (program.size : Int) ≤ count)
    (name : String) {start : World Memory} (named : start.service.Named)
    (ample : start.draws.Ample) :
    let executor := inMemory program board (.ofTree (.int count))
    ((∃ pipeline, (executor.run name start).1 = .ok pipeline) ∨
      ∃ trouble, (executor.run name start).1 = .error (.trouble trouble) ∧
        trouble.kind ∈ [.notFound, .noPipe, .cycle, .board]) ∧
    executor.DrawingsEnd name start ∧
    (∃ written, document.opened = .map written ∧ ∀ task ∈ program.tasks, ∃ entry ∈ written,
      Program.Names arguments entry task.1 ∧
      Grammar.Defines .none caseSensitive (Template.resolve arguments entry.2) task.2) ∧
    (∀ place column, executor.landing place column = executor.landingGuarded place column) ∧
    (∀ source size place pipeline,
      executor.take source size place pipeline = executor.takeGuarded source size place pipeline) ∧
    (∀ kind source pipeline,
      executor.order kind source pipeline = executor.orderGuarded kind source pipeline) := by
  intro executor
  refine ⟨?_, drawings_end program board _ name ample, ?_,
    fun _ _ => (landingGuarded_eq ..).symm, fun _ _ _ _ => (takeGuarded_eq ..).symm,
    fun _ _ _ => (orderGuarded_eq ..).symm⟩
  · have ended := (run_unstuck program board count name allowed start named).1
    change Run.SafeEnd Failure.IsOfRun PipeNamed (executor.run name start).1 at ended
    generalize (executor.run name start).1 = result at ended ⊢
    cases result with
    | ok pipeline => exact Or.inl ⟨pipeline, rfl⟩
    | error failure =>
        obtain ⟨cause, rfl⟩ := ended
        refine Or.inr ⟨.run cause, rfl, ?_⟩
        cases cause <;> simp [Trouble.kind, RunTrouble.kind]
  · obtain ⟨written, opened, loads⟩ := Program.loads_of_ofDocument loaded
    refine ⟨written, opened, fun task member => ?_⟩
    obtain ⟨entry, present, named, compiled⟩ := (loads.fills.origin member).resolve_left
      List.not_mem_nil
    obtain ⟨original, given, rfl⟩ := List.mem_map.mp present
    refine ⟨original, given, named, ?_⟩
    have read := (Body.compile_ok.mp compiled).2
    exact ((Grammar.reads_definition caseSensitive _ _).mp read).unlimited

/-- One card is taken at random from a board that has two. -/
theorem loaded_programs_are_unstuck_of_lottery :
    let text : String → Tree := .text
    let definition := Grammar.typed "take" (.map [(text "size", .int 1),
      (text "place", text "random"), (text "from", .map [(text "type", text "board")])])
    let card (id : String) : Card :=
      { id := text id, name := text "alpha", description := text "", columnId := text "c1"
        labelIds := [], position := 1.0, url := text "", shortUrl := text "" }
    let inbox : Column := { id := text "c1", name := text "Inbox", closed := false }
    let board : Memory :=
      { columns := [(text "b1", [inbox])], cards := [card "k1", card "k2"] }
    let start : World Memory := { service := board, draws := .recurring }
    board.Named ∧ Number.isWritable 32 = true ∧ start.draws.Ample ∧
      ∃ program, Program.ofDocument (.map (Program.lone "draw" definition)) [] = .ok program ∧
        program.tasks = [("draw", .take .board 1 .random)] ∧
        let executor := inMemory program (text "b1") (.ofTree (.int 32))
        let ended := (executor.run "draw" start).1
        executor.DrawingsEnd "draw" start ∧
          ((∃ pipeline, ended = .ok pipeline) ∨ ∃ trouble, ended = .error (.trouble trouble) ∧
            trouble.kind ∈ [.notFound, .noPipe, .cycle, .board]) := by
  intro text definition card inbox board start
  have named : board.Named := by
    constructor
    · simp [Memory.CardsNamed, board, card, text, Tree.isText]
    · simp [board]
  have ample : start.draws.Ample := Draws.recurring_ample
  have writable : Number.isWritable 32 = true := by decide +kernel
  have compiled : Body.compile definition [] = .ok (.take .board 1 .random) := by
    have still : Template.resolve [] definition = definition := by
      simp [definition, text, Grammar.typed, Template.resolve, Template.resolveEntries,
        Tree.ofEntries, Tree.putEntry]
    rw [Body.compile_of_finite rfl, still]
    rfl
  have isTask : "draw" ≠ Program.boardKey := by decide
  have unmarked : ¬ Template.marker <:+: "draw".toList := by decide
  have loaded := Program.ofDocument_lone isTask unmarked definition [] false
  rw [compiled] at loaded
  obtain ⟨ended, drawings, _⟩ :=
    loaded_programs_are_unstuck loaded (text "b1") (Or.inl writable) "draw" named ample
  exact ⟨named, writable, ample, _, loaded, rfl, drawings, ended⟩

theorem unwritable_limit_gets_stuck :
    ∃ program, Program.ofDocument (.map (Program.paired (.text "a") (.text "b"))) [] = .ok program ∧
      ∀ board start,
        ((inMemory program board (.ofTree (.int (-(Number.tooLong : Int))))).run "a" start).1 =
          .error (.misuse .notANumeral) := by
  have loaded := Program.ofDocument_paired (Program.resolve_key "a") (Program.resolve_key "b")
    (by rfl) (by rfl) (by rfl) (by decide) (by decide)
  refine ⟨_, loaded, fun board start => ?_⟩
  have below : -(Number.tooLong : Int) ≤ 0 := Int.neg_nonpos_of_nonneg (Int.natCast_nonneg _)
  exact run_unwritable (inMemory _ board .standard) below Number.isWritable_neg_tooLong rfl start

end Kanban.Executor
