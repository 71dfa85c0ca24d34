import Kanban.Proofs.Program.Refusals
import Kanban.Proofs.Template.Insertion
import Kanban.Proofs.Template.Remaining

namespace Kanban

theorem Field.entry_of_required {entries : List (Tree × Tree)} {name : String} {value : Tree}
    (found : required (.map entries) name = .ok value) :
    ∃ entry, (entry ∈ entries ∧ entry.1 = .text name) ∧ entry.2 = value := by
  obtain ⟨located, _⟩ := Grammar.required_ok.mp found
  obtain ⟨entry, present, rfl⟩ := Option.map_eq_some_iff.mp located
  have key := List.find?_some present
  exact ⟨entry, ⟨List.mem_of_find?_eq_some present, Tree.same_text_iff.mp key⟩, rfl⟩

namespace Program

open Template (resolve placeholders cut retext inMarkers)
open Grammar (typed)

theorem bind_congr_of_ok {ε α β : Type} {result : Except ε α} {next other : α → Except ε β}
    (alike : ∀ value, result = .ok value → next value = other value) :
    result >>= next = result >>= other := by
  cases result with
  | error failure => rfl
  | ok value => exact alike value rfl

section

variable {document : Tree} {arguments others : Arguments} {written entries : List (Tree × Tree)}

theorem entriesOf_of_opened (opened : document.opened = .map written) :
    entriesOf document = written := by
  rw [entriesOf, opened, Field.entriesOf]

theorem filled_of_fillKeys (opened : document.opened = .map written)
    (filled : fillKeys arguments [] written = .ok entries) :
    Filled document arguments entries := by
  refine fillKeys_filled (fun _ none => absurd none List.not_mem_nil) ?_ filled
  rw [entriesOf_of_opened opened]
  exact fun _ member => member

theorem fillKeys_of_agree
    (agree : ∀ entry ∈ written, resolve arguments entry.1 = resolve others entry.1)
    (done : List (Tree × Tree)) :
    fillKeys arguments done written = fillKeys others done written := by
  induction written generalizing done with
  | nil => rfl
  | cons first rest ih =>
      have onward := ih fun entry later => agree entry (List.mem_cons_of_mem _ later)
      rw [fillKeys, fillKeys, agree first List.mem_cons_self, onward]

theorem readTasks_of_agree
    (agree : ∀ entry ∈ entries, resolve arguments entry.2 = resolve others entry.2)
    (caseSensitive : Bool) (tasks : List (String × Body)) :
    readTasks arguments caseSensitive tasks entries =
      readTasks others caseSensitive tasks entries := by
  induction entries generalizing tasks with
  | nil => rfl
  | cons first rest ih =>
      have onward := ih fun entry later => agree entry (List.mem_cons_of_mem _ later)
      rw [readTasks, readTasks]
      refine bind_congr_of_ok fun name _ => ?_
      split
      next => exact onward tasks
      next =>
        rw [Body.compile, Body.compile, agree first List.mem_cons_self]
        exact bind_congr_of_ok fun body _ => onward _

theorem leftover_of_agree
    (agree : ∀ entry ∈ entries, resolve arguments entry.2 = resolve others entry.2) :
    leftover arguments entries = leftover others entries := by
  rw [leftover, leftover]
  congr 2
  induction entries with
  | nil => rfl
  | cons first rest ih =>
      simp only [List.map_cons, Template.resolveItems]
      rw [agree first List.mem_cons_self,
        ih fun entry later => agree entry (List.mem_cons_of_mem _ later)]

/-- Only the values of the placeholders of a document tell what it is loaded as. -/
theorem ofDocument_of_agree
    (agree : ∀ name ∈ placeholders document.opened, arguments.value? name = others.value? name)
    (caseSensitive : Bool) :
    ofDocument document arguments caseSensitive = ofDocument document others caseSensitive := by
  unfold ofDocument
  split
  next written opened =>
    rw [opened, placeholders] at agree
    have key : ∀ entry ∈ written, resolve arguments entry.1 = resolve others entry.1 :=
      fun entry member => Template.resolve_of_agree _ fun name found =>
        agree name (Template.placeholders_of_entry member (.inl found))
    have definition : ∀ entry ∈ written, resolve arguments entry.2 = resolve others entry.2 :=
      fun entry member => Template.resolve_of_agree _ fun name found =>
        agree name (Template.placeholders_of_entry member (.inr found))
    rw [fillKeys_of_agree key]
    refine bind_congr_of_ok fun entries filled => ?_
    have fills := filled_of_fillKeys opened filled
    rw [Filled, entriesOf_of_opened opened] at fills
    have kept : ∀ entry ∈ entries, resolve arguments entry.2 = resolve others entry.2 := by
      intro entry member
      obtain ⟨old, present, rfl⟩ := fills entry member
      exact definition old present
    refine bind_congr_of_ok fun value found => ?_
    obtain ⟨entry, present, rfl⟩ := Field.entry_of_required found
    refine bind_congr_of_ok fun boardValue ended => ?_
    obtain ⟨_, rfl⟩ := finite_ok.mp ended
    rw [kept entry present.1, readTasks_of_agree kept, leftover_of_agree kept]
  next => rfl

theorem board_of_ofDocument {caseSensitive : Bool} {program : Program}
    (loaded : ofDocument document arguments caseSensitive = .ok program) :
    ∃ entry ∈ entriesOf document, resolve arguments entry.1 = .text boardKey ∧
      Field.text (resolve arguments entry.2) = .ok program.board := by
  unfold ofDocument at loaded
  split at loaded
  next written opened =>
    obtain ⟨entries, filled, onward⟩ := Field.bind_ok.mp loaded
    obtain ⟨value, found, onward⟩ := Field.bind_ok.mp onward
    obtain ⟨_, ended, onward⟩ := Field.bind_ok.mp onward
    obtain ⟨board, named, onward⟩ := Field.bind_ok.mp onward
    obtain ⟨tasks, _, made⟩ := Field.bind_ok.mp onward
    cases made
    obtain ⟨_, rfl⟩ := finite_ok.mp ended
    obtain ⟨entry, ⟨present, key⟩, rfl⟩ := Field.entry_of_required found
    obtain ⟨old, member, rfl⟩ := filled_of_fillKeys opened filled entry present
    exact ⟨old, member, key, named⟩
  next => cases loaded

theorem task_of_ofDocument {caseSensitive : Bool} {program : Program}
    (loaded : ofDocument document arguments caseSensitive = .ok program) {task : String × Body}
    (member : task ∈ program.tasks) :
    ∃ entry ∈ entriesOf document, Names arguments entry task.1 ∧
      Body.compile entry.2 arguments caseSensitive = .ok task.2 := by
  obtain ⟨written, opened, loads⟩ := loads_of_ofDocument loaded
  rcases loads.fills.origin member with old | ⟨filled, present, named, compiled⟩
  · cases old
  · obtain ⟨entry, held, rfl⟩ := List.mem_map.mp present
    refine ⟨entry, ?_, named, compiled⟩
    rwa [entriesOf_of_opened opened]

end

def lone (name : String) (definition : Tree) : List (Tree × Tree) :=
  [(.text boardKey, .text "ENG"), (.text name, definition)]

theorem ofDocument_lone {name : String} (isTask : name ≠ boardKey)
    (unmarked : ¬ Template.marker <:+: name.toList) (definition : Tree)
    (arguments : Arguments) (caseSensitive : Bool) :
    ofDocument (.map (lone name definition)) arguments caseSensitive =
      (Body.compile definition arguments caseSensitive).map fun body =>
        { board := "ENG", tasks := [(name, body)],
          unfilled := leftover arguments (lone name definition) } := by
  have board : resolve arguments (.text boardKey) = .text boardKey := by
    rw [Template.resolve_text, Template.substitute_of_unmarked (by decide)]
  have own : resolve arguments (.text name) = .text name := by
    rw [Template.resolve_text, Template.substitute_of_unmarked unmarked]
  have keys : fillKeys arguments [] (lone name definition) = .ok (lone name definition) := by
    simp [fillKeys, lone, board, own, Ne.symm isTask]
  have found : Field.required (.map (lone name definition)) boardKey = .ok (.text "ENG") :=
    Grammar.required_ok.mpr (.here (by simp))
  have value : resolve arguments (.text "ENG") = .text "ENG" := by
    rw [Template.resolve_text, Template.substitute_of_unmarked (by decide)]
  have finiteName : finite (.text "ENG") = .ok (.text "ENG") := rfl
  have boardNamed : Field.text (.text boardKey) = .ok boardKey := rfl
  have named : Field.text (.text name) = .ok name := rfl
  have tasks : readTasks arguments caseSensitive [] (lone name definition) =
      (Body.compile definition arguments caseSensitive).map fun body => [(name, body)] := by
    simp only [lone, readTasks, boardNamed, named, isTask, if_true, if_false, bind, Except.bind]
    cases Body.compile definition arguments caseSensitive <;> rfl
  simp only [ofDocument, Tree.opened, keys, found, finiteName, value, tasks, bind, Except.bind]
  cases Body.compile definition arguments caseSensitive <;> rfl

/-- Known names cut every text into literal pieces with some of these names between them, and
whatever the values of the names are, a text is filled by putting them between its pieces as they
are.  What a document is loaded as is read of its entries once their texts are filled in this way.
Arguments that agree on the placeholders of a definition or of a document make the same of it, so
nothing that a value looks like brings the value of another name into it. -/
theorem values_are_inserted_once (known : List String) :
    (∀ text, (∀ hole ∈ (cut known text).rest, hole.1 ∈ known) ∧
      (cut known text).joined inMarkers = text) ∧
    (∀ arguments : Arguments, (∀ name, name ∈ arguments.names ↔ name ∈ known) →
      let inserted := fun text => (cut known text).joined arguments.shownValue
      (∀ text, Template.substitute arguments text = inserted text) ∧
      ∀ document caseSensitive program,
        ofDocument document arguments caseSensitive = .ok program →
          (∃ entry ∈ entriesOf document, retext inserted entry.1 = .text boardKey ∧
            Field.text (retext inserted entry.2) = .ok program.board) ∧
          ∀ task ∈ program.tasks, ∃ entry ∈ entriesOf document,
            Field.text (retext inserted entry.1) = .ok task.1 ∧
              Body.ofTree (retext inserted entry.2) caseSensitive = .ok task.2) ∧
    ∀ (arguments others : Arguments) (caseSensitive : Bool),
      (∀ definition,
        (∀ name ∈ placeholders definition, arguments.value? name = others.value? name) →
          Body.compile definition arguments caseSensitive =
            Body.compile definition others caseSensitive) ∧
      ∀ document,
        (∀ name ∈ placeholders document.opened, arguments.value? name = others.value? name) →
          ofDocument document arguments caseSensitive =
            ofDocument document others caseSensitive := by
  refine ⟨fun text => ⟨Template.known_of_cutRow, Template.cut_written known text⟩, ?_, ?_⟩
  · intro arguments named inserted
    have same : Template.substitute arguments = inserted :=
      funext fun text => (Template.cut_filled named text).symm
    refine ⟨congrFun same, ?_⟩
    intro document caseSensitive program loaded
    simp only [← same, Template.retext_substitute]
    refine ⟨board_of_ofDocument loaded, fun task member => ?_⟩
    obtain ⟨entry, held, named, compiled⟩ := task_of_ofDocument loaded member
    exact ⟨entry, held, named, (Body.compile_ok.mp compiled).2⟩
  · intro arguments others caseSensitive
    refine ⟨fun definition agree => ?_, fun document agree => ofDocument_of_agree agree _⟩
    rw [Body.compile, Body.compile, Template.resolve_of_agree definition agree]

/-- A value that looks like a placeholder stays what it is, whether or not its name has a value. -/
theorem values_are_inserted_once_of_markers :
    let arguments : Arguments := [("a", .text "~~b~~")]
    let others : Arguments := [("a", .text "~~b~~"), ("b", .text "x")]
    let document : Tree := .map (lone "t" (typed "group" (.list [.text "~~a~~"])))
    let inserted := fun text => (cut ["a"] text).joined arguments.shownValue
    inserted "~~a~~" = "~~b~~" ∧
      (∃ entry ∈ entriesOf document,
        Body.ofTree (retext inserted entry.2) false = .ok (.group ["~~b~~"])) ∧
      ∃ program, ofDocument document arguments = .ok program ∧
        ofDocument document others = .ok program ∧ program.tasks = [("t", .group ["~~b~~"])] := by
  intro arguments others document inserted
  obtain ⟨_, inserting, agreeing⟩ := values_are_inserted_once ["a"]
  obtain ⟨filled, loads⟩ := inserting arguments fun _ => Iff.rfl
  have isName : Template.IsName "a".toList := .of_plain (by decide) (by decide) (by decide)
  have value : Template.substitute arguments "~~a~~" = "~~b~~" :=
    Template.substitute_inMarkers isName rfl
  have one : Template.textNames "~~a~~" = ["a"] :=
    Template.textNames_written (.slot isName .nil) (by decide)
  have definition : resolve arguments (typed "group" (.list [.text "~~a~~"])) =
      typed "group" (.list [.text "~~b~~"]) := by
    simp (disch := decide) [typed, resolve, Template.resolveEntries, Template.resolveItems, value,
      Template.substitute_of_unmarked, Tree.ofEntries, Tree.putEntry]
  have compiled : Body.compile (typed "group" (.list [.text "~~a~~"])) arguments =
      .ok (.group ["~~b~~"]) := by
    rw [Body.compile_of_finite rfl, definition]
    rfl
  have names : placeholders document.opened = ["a"] := by
    simp (disch := decide) [document, lone, boardKey, typed, Tree.opened, placeholders,
      Template.entryPlaceholders, Template.itemPlaceholders, one, Template.textNames_of_unmarked]
  obtain ⟨program, loaded, tasks⟩ : ∃ program, ofDocument document arguments = .ok program ∧
      program.tasks = [("t", .group ["~~b~~"])] := by
    rw [ofDocument_lone (by decide) (by decide), compiled]
    exact ⟨_, rfl, rfl⟩
  have alike : ofDocument document arguments = ofDocument document others :=
    (agreeing arguments others false).2 document
      (by simp [names, arguments, others, Arguments.value?])
  obtain ⟨entry, member, _, read⟩ := (loads document false program loaded).2 ("t", .group ["~~b~~"])
    (by simp [tasks])
  exact ⟨(filled _).symm.trans value, ⟨entry, member, read⟩, program, loaded,
    alike.symm.trans loaded, tasks⟩

end Program

end Kanban
