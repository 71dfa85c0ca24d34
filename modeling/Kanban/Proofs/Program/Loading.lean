import Kanban.Program
import Kanban.Proofs.Task.Language
import Kanban.Proofs.Tree.Entries
import Mathlib.Data.List.Dedup
import Mathlib.Data.List.Forall2

/-!
What loading makes of the entries of a document.  Two entries whose keys come to be the same value
are refused; two whose keys are different values with one text are not, and then the later entry
takes the name.
-/
namespace Kanban.Program

/-! The table, filled one task after the other. -/

def tableBody? (tasks : List (String × Body)) (name : String) : Option Body :=
  (tasks.find? (·.1 == name)).map (·.2)

section

variable {tasks final : List (String × Body)} {name other : String} {body : Body}

theorem tableBody?_putTask :
    tableBody? (putTask tasks name body) other =
      if name = other then some body else tableBody? tasks other := by
  induction tasks with
  | nil => by_cases same : name = other <;> simp [putTask, tableBody?, same]
  | cons task rest ih =>
      obtain ⟨key, old⟩ := task
      by_cases atKey : key = name
      · subst atKey
        by_cases same : key = other <;> simp [putTask, tableBody?, same]
      · by_cases same : key = other
        · subst same
          simp [putTask, tableBody?, atKey, Ne.symm atKey]
        · simp only [tableBody?] at ih
          simp [putTask, tableBody?, atKey, same, ih]

theorem mem_putTask {task : String × Body} (member : task ∈ putTask tasks name body) :
    task = (name, body) ∨ task ∈ tasks := by
  induction tasks with
  | nil => exact Or.inl (List.mem_singleton.mp member)
  | cons first rest ih =>
      by_cases atKey : first.1 = name
      · subst atKey
        simp only [putTask, beq_self_eq_true, if_true, List.mem_cons] at member
        exact member.imp_right (List.mem_cons_of_mem _)
      · simp only [putTask, beq_iff_eq, atKey, if_false, List.mem_cons] at member
        rcases member with rfl | member
        · exact Or.inr List.mem_cons_self
        · exact (ih member).imp_right (List.mem_cons_of_mem _)

theorem names_putTask :
    other ∈ (putTask tasks name body).map (·.1) ↔ other = name ∨ other ∈ tasks.map (·.1) := by
  induction tasks with
  | nil => simp [putTask]
  | cons first rest ih =>
      by_cases atKey : first.1 = name
      · subst atKey
        simp [putTask]
      · simp only [putTask, beq_iff_eq, atKey, if_false, List.map_cons, List.mem_cons, ih,
          or_left_comm]

theorem nodup_putTask (distinct : (tasks.map (·.1)).Nodup) :
    ((putTask tasks name body).map (·.1)).Nodup := by
  induction tasks with
  | nil => exact List.nodup_singleton _
  | cons first rest ih =>
      rw [List.map_cons, List.nodup_cons] at distinct
      by_cases atKey : first.1 = name
      · subst atKey
        simpa [putTask] using distinct
      · simp only [putTask, beq_iff_eq, atKey, if_false, List.map_cons, List.nodup_cons,
          names_putTask, not_or]
        exact ⟨⟨not_false, distinct.1⟩, ih distinct.2⟩

end

inductive Fills (arguments : Arguments) (caseSensitive : Bool) :
    List (String × Body) → List (Tree × Tree) → List (String × Body) → Prop where
  | nil (tasks : List (String × Body)) : Fills arguments caseSensitive tasks [] tasks
  | board {tasks final : List (String × Body)} {key definition : Tree}
      {rest : List (Tree × Tree)} :
      Field.text key = .ok boardKey → Fills arguments caseSensitive tasks rest final →
      Fills arguments caseSensitive tasks ((key, definition) :: rest) final
  | task {tasks final : List (String × Body)} {key definition : Tree} {rest : List (Tree × Tree)}
      {name : String} {body : Body} :
      Field.text key = .ok name → name ≠ boardKey →
      Body.compile definition arguments caseSensitive = .ok body →
      Fills arguments caseSensitive (putTask tasks name body) rest final →
      Fills arguments caseSensitive tasks ((key, definition) :: rest) final

theorem finite_ok {value result : Tree} :
    finite value = .ok result ↔ value.isFinite ∧ value = result := by
  unfold finite
  split <;> simp_all

section

variable {arguments : Arguments} {caseSensitive : Bool} {entries : List (Tree × Tree)}
  {tasks final : List (String × Body)}

theorem fills_of_readTasks (read : readTasks arguments caseSensitive tasks entries = .ok final) :
    Fills arguments caseSensitive tasks entries final := by
  induction entries generalizing tasks with
  | nil =>
      cases read
      exact .nil _
  | cons entry rest ih =>
      obtain ⟨name, named, onward⟩ := Field.bind_ok.mp read
      by_cases board : name = boardKey
      · rw [if_pos board] at onward
        exact .board (board ▸ named) (ih onward)
      · rw [if_neg board] at onward
        obtain ⟨body, compiled, reads⟩ := Field.bind_ok.mp onward
        exact .task named board compiled (ih reads)

namespace Fills

theorem named (fills : Fills arguments caseSensitive tasks entries final) :
    ∀ entry ∈ entries, ∃ name, Field.text entry.1 = .ok name := by
  induction fills with
  | nil => nofun
  | board named _ ih | task named _ _ _ ih =>
      intro entry member
      rcases List.mem_cons.mp member with rfl | member
      · exact ⟨_, named⟩
      · exact ih entry member

theorem names_iff (fills : Fills arguments caseSensitive tasks entries final) {name : String} :
    name ∈ final.map (·.1) ↔ name ∈ tasks.map (·.1) ∨
      (name ≠ boardKey ∧ ∃ entry ∈ entries, Field.text entry.1 = .ok name) := by
  induction fills with
  | nil => simp
  | board named _ ih =>
      rw [ih]
      simp only [List.mem_cons, exists_eq_or_imp, named, Except.ok.injEq]
      grind
  | task named differs _ _ ih =>
      rw [ih, names_putTask]
      simp only [List.mem_cons, exists_eq_or_imp, named, Except.ok.injEq]
      grind

theorem nodup (fills : Fills arguments caseSensitive tasks entries final)
    (distinct : (tasks.map (·.1)).Nodup) : (final.map (·.1)).Nodup := by
  induction fills with
  | nil => exact distinct
  | board _ _ ih => exact ih distinct
  | task _ _ _ _ ih => exact ih (nodup_putTask distinct)

theorem origin (fills : Fills arguments caseSensitive tasks entries final)
    {task : String × Body} (member : task ∈ final) :
    task ∈ tasks ∨ ∃ entry ∈ entries, Field.text entry.1 = .ok task.1 ∧
      Body.compile entry.2 arguments caseSensitive = .ok task.2 := by
  induction fills with
  | nil => exact Or.inl member
  | board named _ ih =>
      rcases ih member with old | ⟨entry, later, read⟩
      · exact Or.inl old
      · exact Or.inr ⟨entry, List.mem_cons_of_mem _ later, read⟩
  | task named _ compiled _ ih =>
      rcases ih member with put | ⟨entry, later, read⟩
      · rcases mem_putTask put with rfl | old
        · exact Or.inr ⟨_, List.mem_cons_self, named, compiled⟩
        · exact Or.inl old
      · exact Or.inr ⟨entry, List.mem_cons_of_mem _ later, read⟩

theorem untouched (fills : Fills arguments caseSensitive tasks entries final) {name : String}
    (absent : ∀ entry ∈ entries, Field.text entry.1 ≠ .ok name) :
    tableBody? final name = tableBody? tasks name := by
  induction fills with
  | nil => rfl
  | board _ _ ih => exact ih fun entry later => absent entry (List.mem_cons_of_mem _ later)
  | @task tasks final key definition rest other body named _ _ _ ih =>
      have differs : other ≠ name := by
        rintro rfl
        exact absent _ List.mem_cons_self named
      rw [ih fun entry later => absent entry (List.mem_cons_of_mem _ later), tableBody?_putTask,
        if_neg differs]

theorem last {before after : List (Tree × Tree)} {key definition : Tree} {name : String}
    (fills : Fills arguments caseSensitive tasks (before ++ (key, definition) :: after) final)
    (named : Field.text key = .ok name) (isTask : name ≠ boardKey)
    (absent : ∀ entry ∈ after, Field.text entry.1 ≠ .ok name) :
    ∃ body, Body.compile definition arguments caseSensitive = .ok body ∧
      tableBody? final name = some body := by
  induction before generalizing tasks with
  | nil =>
      cases fills with
      | board again _ =>
          rw [named] at again
          exact absurd (Except.ok.inj again) isTask
      | task again _ compiled onward =>
          rw [named] at again
          cases again
          refine ⟨_, compiled, ?_⟩
          rw [onward.untouched absent, tableBody?_putTask, if_pos rfl]
  | cons first rest ih =>
      cases fills with
      | board _ onward | task _ _ _ onward => exact ih onward

end Fills

end

/-! The keys of the entries, filled before any of them is read. -/

def filledKeys (arguments : Arguments) (written : List (Tree × Tree)) : List (Tree × Tree) :=
  written.map fun entry => (Template.resolve arguments entry.1, entry.2)

section

variable {arguments : Arguments} {written done : List (Tree × Tree)}

theorem append_filledKeys_cons (entry : Tree × Tree) :
    done ++ filledKeys arguments (entry :: written) =
      done ++ [(Template.resolve arguments entry.1, entry.2)] ++ filledKeys arguments written := by
  simp [filledKeys]

theorem fillKeys_differ
    (differ : Tree.KeysDiffer ((done ++ filledKeys arguments written).map (·.1))) :
    fillKeys arguments done written = .ok (done ++ filledKeys arguments written) := by
  induction written generalizing done with
  | nil => simp [fillKeys, filledKeys]
  | cons entry rest ih =>
      have free : done.any (·.1.same (Template.resolve arguments entry.1)) = false := by
        rw [Tree.KeysDiffer, List.map_append, List.pairwise_append] at differ
        simp only [List.any_eq_false, Bool.not_eq_true]
        intro old member
        exact differ.2.2 _ (List.mem_map_of_mem member) _ (by simp [filledKeys])
      rw [append_filledKeys_cons] at differ ⊢
      simp only [fillKeys, free, Bool.false_eq_true, if_false]
      exact ih differ

theorem fillKeys_clash (differ : Tree.KeysDiffer (done.map (·.1)))
    (clash : ¬ Tree.KeysDiffer ((done ++ filledKeys arguments written).map (·.1))) :
    ∃ filled key,
      fillKeys arguments done written = .error (.ofDefinition (.taskTwice filled key)) := by
  induction written generalizing done with
  | nil => exact absurd differ (by simpa [filledKeys] using clash)
  | cons entry rest ih =>
      by_cases taken : done.any (fun old => old.1.same (Template.resolve arguments entry.1))
      · refine ⟨Template.resolve arguments entry.1, entry.1, ?_⟩
        simp only [fillKeys, taken, if_true]
      · rw [append_filledKeys_cons] at clash
        simp only [fillKeys, taken, Bool.false_eq_true, if_false]
        refine ih ?_ clash
        simp only [List.any_eq_true, not_exists, not_and, Bool.not_eq_true] at taken
        rw [Tree.KeysDiffer, List.map_append, List.pairwise_append]
        refine ⟨differ, List.pairwise_singleton _ _, ?_⟩
        simpa using taken

end

structure Loads (written : List (Tree × Tree)) (arguments : Arguments) (caseSensitive : Bool)
    (program : Program) : Prop where
  differ : Tree.KeysDiffer ((filledKeys arguments written).map (·.1))
  board : ∃ definition, (.text boardKey, definition) ∈ filledKeys arguments written
  fills : Fills arguments caseSensitive [] (filledKeys arguments written) program.tasks

theorem loads_of_ofDocument {document : Tree} {arguments : Arguments} {caseSensitive : Bool}
    {program : Program} (loaded : ofDocument document arguments caseSensitive = .ok program) :
    ∃ written, document.opened = .map written ∧ Loads written arguments caseSensitive program := by
  unfold ofDocument at loaded
  split at loaded
  next written opened =>
    refine ⟨written, opened, ?_⟩
    obtain ⟨entries, filled, onward⟩ := Field.bind_ok.mp loaded
    obtain ⟨value, found, onward⟩ := Field.bind_ok.mp onward
    obtain ⟨_, _, onward⟩ := Field.bind_ok.mp onward
    obtain ⟨board, _, onward⟩ := Field.bind_ok.mp onward
    obtain ⟨tasks, read, made⟩ := Field.bind_ok.mp onward
    cases made
    have differ : Tree.KeysDiffer ((filledKeys arguments written).map (·.1)) := by
      by_contra clash
      have nothing : Tree.KeysDiffer (([] : List (Tree × Tree)).map (·.1)) := List.Pairwise.nil
      obtain ⟨_, _, refused⟩ := fillKeys_clash nothing clash
      rw [refused] at filled
      cases filled
    rw [fillKeys_differ differ] at filled
    cases filled
    refine ⟨differ, ?_, fills_of_readTasks read⟩
    obtain ⟨located, _⟩ := Grammar.required_ok.mp found
    obtain ⟨⟨key, definition⟩, present, rfl⟩ := Option.map_eq_some_iff.mp located
    have named := List.find?_some present
    cases Tree.same_text_iff.mp named
    exact ⟨definition, List.mem_of_find?_eq_some present⟩
  next => cases loaded

def Names (arguments : Arguments) (entry : Tree × Tree) (name : String) : Prop :=
  Field.text (Template.resolve arguments entry.1) = .ok name

def NamesDiffer (arguments : Arguments) (written : List (Tree × Tree)) : Prop :=
  written.Pairwise fun entry other =>
    ∀ name, Names arguments entry name → ¬ Names arguments other name

section

variable {arguments : Arguments} {written : List (Tree × Tree)} {names : List String}

theorem Names.unique {entry : Tree × Tree} {name other : String}
    (named : Names arguments entry name) (again : Names arguments entry other) : name = other :=
  Except.ok.inj (named.symm.trans again)

theorem exists_names (named : ∀ entry ∈ written, ∃ name, Names arguments entry name) :
    ∃ names, List.Forall₂ (Names arguments) written names := by
  induction written with
  | nil => exact ⟨[], .nil⟩
  | cons entry rest ih =>
      obtain ⟨name, first⟩ := named entry List.mem_cons_self
      obtain ⟨names, later⟩ := ih fun other member => named other (List.mem_cons_of_mem _ member)
      exact ⟨name :: names, .cons first later⟩

theorem mem_names_iff (named : List.Forall₂ (Names arguments) written names) {name : String} :
    name ∈ names ↔ ∃ entry ∈ written, Names arguments entry name := by
  induction named with
  | nil => simp
  | @cons entry own _ _ first _ ih =>
      have here : Names arguments entry name ↔ name = own :=
        ⟨fun again => again.unique first, fun same => same ▸ first⟩
      simp only [List.mem_cons, exists_eq_or_imp, here, ih]

theorem namesDiffer_iff (named : List.Forall₂ (Names arguments) written names) :
    NamesDiffer arguments written ↔ names.Nodup := by
  induction named with
  | nil => simp [NamesDiffer]
  | @cons entry own rest others first later ih =>
      rw [NamesDiffer] at ih ⊢
      rw [List.pairwise_cons, List.nodup_cons, ih, mem_names_iff later]
      refine and_congr_left fun _ => ?_
      constructor
      · rintro apart ⟨other, member, taken⟩
        exact apart other member own first taken
      · intro free other member name named taken
        rw [named.unique first] at taken
        exact free ⟨other, member, taken⟩

end

namespace Loads

variable {written : List (Tree × Tree)} {arguments : Arguments} {caseSensitive : Bool}
  {program : Program}

theorem named (loads : Loads written arguments caseSensitive program) :
    ∀ entry ∈ written, ∃ name, Names arguments entry name := by
  intro entry member
  have filled : (Template.resolve arguments entry.1, entry.2) ∈ filledKeys arguments written :=
    List.mem_map_of_mem member
  exact loads.fills.named _ filled

theorem mem_tableNames (loads : Loads written arguments caseSensitive program) {name : String} :
    name ∈ program.tableNames ↔
      name ≠ boardKey ∧ ∃ entry ∈ written, Names arguments entry name := by
  rw [tableNames, loads.fills.names_iff, filledKeys]
  simp only [List.map_nil, List.not_mem_nil, false_or, List.mem_map, exists_exists_and_eq_and]
  rfl

theorem nodup_tableNames (loads : Loads written arguments caseSensitive program) :
    program.tableNames.Nodup :=
  loads.fills.nodup List.nodup_nil

theorem boardNamed (loads : Loads written arguments caseSensitive program) :
    ∃ entry ∈ written, Names arguments entry boardKey := by
  obtain ⟨definition, member⟩ := loads.board
  obtain ⟨entry, present, same⟩ := List.mem_map.mp member
  have key : Template.resolve arguments entry.1 = .text boardKey := congrArg Prod.fst same
  refine ⟨entry, present, ?_⟩
  rw [Names, key]
  rfl

theorem last (loads : Loads written arguments caseSensitive program)
    {before after : List (Tree × Tree)} {entry : Tree × Tree} {name : String}
    (split : written = before ++ entry :: after) (named : Names arguments entry name)
    (isTask : name ≠ boardKey) (absent : ∀ later ∈ after, ¬ Names arguments later name) :
    ∃ body, Body.compile entry.2 arguments caseSensitive = .ok body ∧
      program.body? name = some body := by
  have fills := loads.fills
  rw [split, filledKeys, List.map_append, List.map_cons] at fills
  refine fills.last named isTask ?_
  rintro _ filled
  obtain ⟨later, member, rfl⟩ := List.mem_map.mp filled
  exact absent later member

theorem own (loads : Loads written arguments caseSensitive program)
    (differ : NamesDiffer arguments written) {entry : Tree × Tree} (member : entry ∈ written)
    {name : String} (named : Names arguments entry name) (isTask : name ≠ boardKey) :
    ∃ body, Body.compile entry.2 arguments caseSensitive = .ok body ∧
      program.body? name = some body := by
  obtain ⟨before, after, split⟩ := List.append_of_mem member
  rw [NamesDiffer, split, List.pairwise_append, List.pairwise_cons] at differ
  apply loads.last split named isTask
  intro later afterwards
  exact differ.2.1.1 later afterwards name named

/-- No task is lost exactly if all entries have different names. -/
theorem size_iff (loads : Loads written arguments caseSensitive program) :
    program.size + 1 = written.length ↔ NamesDiffer arguments written := by
  obtain ⟨names, named⟩ := exists_names loads.named
  have unboarded : boardKey ∉ program.tableNames := fun member =>
    (loads.mem_tableNames.mp member).1 rfl
  have table : names.dedup.Perm (boardKey :: program.tableNames) := by
    refine (List.perm_ext_iff_of_nodup names.nodup_dedup
      (List.nodup_cons.mpr ⟨unboarded, loads.nodup_tableNames⟩)).mpr fun name => ?_
    rw [List.mem_dedup, mem_names_iff named, List.mem_cons, loads.mem_tableNames]
    by_cases board : name = boardKey
    · simp [board, loads.boardNamed]
    · simp [board]
  have length : names.dedup.length = program.size + 1 := by
    rw [table.length_eq, List.length_cons, tableNames, List.length_map, size]
  rw [namesDiffer_iff named, ← length, named.length_eq]
  constructor
  · intro whole
    rw [← names.dedup_sublist.eq_of_length whole]
    exact names.nodup_dedup
  · intro distinct
    rw [distinct.dedup]

theorem namesDiffer_of_texts (loads : Loads written arguments caseSensitive program)
    (texts : ∀ entry ∈ written, entry.1.isText) : NamesDiffer arguments written := by
  have differ := loads.differ
  rw [Tree.KeysDiffer, filledKeys, List.map_map, List.pairwise_map] at differ
  refine differ.imp_of_mem fun {entry other} member otherMember apart name named taken => ?_
  have filled (entry : Tree × Tree) (member : entry ∈ written)
      (named : Names arguments entry name) :
      Template.resolve arguments entry.1 = .text name := by
    obtain ⟨key, definition⟩ := entry
    have text := texts _ member
    cases key with
    | text written =>
        rw [Names, Template.resolve_text] at named
        rw [Template.resolve_text, Except.ok.inj named]
    | _ => cases text
  simp [filled entry member named, filled other otherMember taken] at apart

end Loads

/-- What becomes of the entries of a document.  Where the keys of two of them come to be the same
value, the document is refused.  Otherwise each entry has a name, the names but that of the board
are those of the table, and an entry whose name no later one has is found under it as it is defined.
So no entry is lost exactly if all names are different, as they are where the keys are texts, and
then each is found. -/
theorem last_entries_keep_their_tasks {document : Tree} {written : List (Tree × Tree)}
    (opened : document.opened = .map written) (arguments : Arguments) (caseSensitive : Bool) :
    (¬ Tree.KeysDiffer (written.map fun entry => Template.resolve arguments entry.1) →
      ∃ filled key, ofDocument document arguments caseSensitive =
        .error (.ofDefinition (.taskTwice filled key))) ∧
    ∀ program, ofDocument document arguments caseSensitive = .ok program →
      (∀ entry ∈ written, ∃ name, Names arguments entry name) ∧
      (∀ name, name ∈ program.tableNames ↔
        name ≠ boardKey ∧ ∃ entry ∈ written, Names arguments entry name) ∧
      (∀ before entry after name, written = before ++ entry :: after →
        Names arguments entry name → name ≠ boardKey →
        (∀ later ∈ after, ¬ Names arguments later name) →
        ∃ body, Body.compile entry.2 arguments caseSensitive = .ok body ∧
          program.body? name = some body) ∧
      (program.size + 1 = written.length ↔ NamesDiffer arguments written) ∧
      ((∀ entry ∈ written, entry.1.isText) → NamesDiffer arguments written) ∧
      (NamesDiffer arguments written → ∀ entry ∈ written, ∀ name, Names arguments entry name →
        name ≠ boardKey → ∃ body, Body.compile entry.2 arguments caseSensitive = .ok body ∧
          program.body? name = some body) := by
  constructor
  · intro clash
    have nothing : Tree.KeysDiffer (([] : List (Tree × Tree)).map (·.1)) := List.Pairwise.nil
    obtain ⟨filled, key, refused⟩ := fillKeys_clash nothing
      (by simpa [filledKeys, Function.comp_def] using clash)
    refine ⟨filled, key, ?_⟩
    simp only [ofDocument, opened, refused]
    rfl
  · intro program loaded
    obtain ⟨same, again, loads⟩ := loads_of_ofDocument loaded
    rw [opened] at again
    cases again
    exact ⟨loads.named, fun _ => loads.mem_tableNames, fun _ _ _ _ => loads.last, loads.size_iff,
      loads.namesDiffer_of_texts, fun differ _ member _ => loads.own differ member⟩

section

open Grammar (typed resolve_typed)

def paired (first second : Tree) : List (Tree × Tree) :=
  [(.text boardKey, .text "ENG"), (first, typed "group" (.list [])),
    (second, typed "flow" (.list []))]

theorem compile_group : Body.compile (typed "group" (.list [])) [] = .ok (.group []) := by
  rw [Body.compile_of_finite rfl, resolve_typed "group" rfl]
  rfl

theorem compile_flow : Body.compile (typed "flow" (.list [])) [] = .ok (.flow []) := by
  rw [Body.compile_of_finite rfl, resolve_typed "flow" rfl]
  rfl

theorem resolve_key (name : String) : Template.resolve [] (.text name) = .text name := by
  simp

theorem ofDocument_paired {first second : Tree} {name other : String}
    (filled : Template.resolve [] first = first) (otherFilled : Template.resolve [] second = second)
    (apart : first.same second = false) (named : Field.text first = .ok name)
    (otherNamed : Field.text second = .ok other) (isTask : name ≠ boardKey)
    (otherIsTask : other ≠ boardKey) :
    ofDocument (.map (paired first second)) [] = .ok {
      board := "ENG"
      tasks := putTask [(name, .group [])] other (.flow [])
      unfilled := leftover [] (paired first second) } := by
  have notBoard {key : Tree} {name : String} (named : Field.text key = .ok name)
      (isTask : name ≠ boardKey) : (Tree.text boardKey).same key = false := by
    rw [Bool.eq_false_iff]
    intro same
    rw [Tree.text_same_iff.mp same] at named
    exact isTask (Except.ok.inj named).symm
  have keys : fillKeys [] [] (paired first second) = .ok (paired first second) := by
    simp [fillKeys, paired, filled, otherFilled, apart, notBoard named isTask,
      notBoard otherNamed otherIsTask]
  have board : Field.required (.map (paired first second)) boardKey = .ok (.text "ENG") :=
    Grammar.required_ok.mpr (.here (by simp))
  have tasks : readTasks [] false [] (paired first second) =
      .ok (putTask [(name, .group [])] other (.flow [])) := by
    have boardNamed : Field.text (.text boardKey) = .ok boardKey := by rfl
    simp only [paired, readTasks, boardNamed, named, otherNamed, isTask, otherIsTask, if_true,
      if_false, compile_group, compile_flow, bind, Except.bind]
    rfl
  have finite : finite (.text "ENG") = .ok (.text "ENG") := by rfl
  simp only [ofDocument, Tree.opened, keys, board, tasks, finite, resolve_key, bind, Except.bind]
  rfl

theorem last_entries_keep_their_tasks_of_two :
    ∃ program, ofDocument (.map (paired (.text "a") (.text "b"))) [] = .ok program ∧
      program.size + 1 = 3 ∧ program.body? "a" = some (.group []) ∧
      program.body? "b" = some (.flow []) ∧
      ∃ filled key, ofDocument (.map (paired (.text "a") (.text "a"))) [] =
        .error (.ofDefinition (.taskTwice filled key)) := by
  have opened (first second : Tree) :
      (Tree.map (paired first second)).opened = .map (paired first second) := rfl
  have loaded := ofDocument_paired (resolve_key "a") (resolve_key "b") (by rfl) (by rfl) (by rfl)
    (by decide) (by decide)
  have twice := (last_entries_keep_their_tasks (opened (.text "a") (.text "a")) [] false).1
  obtain ⟨_, _, _, size, texts, own⟩ :=
    (last_entries_keep_their_tasks (opened (.text "a") (.text "b")) [] false).2 _ loaded
  have differ : NamesDiffer [] (paired (.text "a") (.text "b")) :=
    texts (by simp [paired, Tree.isText])
  have named (name : String) (definition : Tree) : Names [] (.text name, definition) name := by
    simp [Names, Field.text]
  refine ⟨_, loaded, size.mpr differ, ?_, ?_, twice ?_⟩
  · obtain ⟨body, compiled, found⟩ := own differ _ (.tail _ (.head _)) "a" (named _ _) (by decide)
    rw [compile_group] at compiled
    cases compiled
    exact found
  · obtain ⟨body, compiled, found⟩ :=
      own differ _ (.tail _ (.tail _ (.head _))) "b" (named _ _) (by decide)
    rw [compile_flow] at compiled
    cases compiled
    exact found
  · simp [Tree.KeysDiffer, paired]

/-- A number and the text of its digits are different keys.  The document is loaded, and the entry
of the number is lost. -/
theorem number_loses_to_its_text :
    let numbered := (Tree.int 1, typed "group" (.list []))
    let lettered := (Tree.text "1", typed "flow" (.list []))
    let written := [(.text boardKey, .text "ENG"), numbered, lettered]
    Names [] numbered "1" ∧ Names [] lettered "1" ∧
      Body.compile numbered.2 [] = .ok (.group []) ∧
      ∃ program, ofDocument (.map written) [] = .ok program ∧
        program.size + 1 < written.length ∧ program.body? "1" = some (.flow []) := by
  have one : Field.text (.int 1) = .ok "1" := by
    have writable : Number.isWritable 1 = true := by decide +kernel
    rw [Field.text, if_pos writable]
    rfl
  have filled : Template.resolve [] (.int 1) = .int 1 := by rfl
  have loaded := ofDocument_paired filled (resolve_key "1") (by rfl) one rfl (by decide) (by decide)
  refine ⟨?_, ?_, compile_group, _, loaded, by decide, by rfl⟩
  · rw [Names, filled, one]
  · rw [Names, resolve_key, Field.text]

end

end Kanban.Program
