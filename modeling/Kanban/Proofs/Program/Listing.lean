import Kanban.Proofs.Program.Accepting
import Kanban.Proofs.Program.Insertion
import Kanban.Proofs.Task.Parameters
import Kanban.Proofs.Task.Unfilled

namespace Kanban.Program

open Template (resolve placeholders KeysKept inMarkers)
open Grammar (typed sized)

section

variable {arguments : Arguments} {caseSensitive : Bool} {document : Tree}
  {written : List (Tree × Tree)} {program : Program}

theorem filledKeys_of_none (keysUnmarked : ∀ entry ∈ written, placeholders entry.1 = [])
    (arguments others : Arguments) : filledKeys arguments written = filledKeys others written := by
  refine List.map_congr_left fun entry member => ?_
  rw [Template.resolve_of_none (keysUnmarked entry member)]

theorem names_of_none (keysUnmarked : ∀ entry ∈ written, placeholders entry.1 = [])
    {entry : Tree × Tree} (member : entry ∈ written) (arguments others : Arguments)
    (name : String) :
    Names arguments entry name ↔ Names others entry name := by
  rw [Names, Names, Template.resolve_of_none (keysUnmarked entry member)]

theorem names_unfilled (keysUnmarked : ∀ entry ∈ entriesOf document, placeholders entry.1 = [])
    (loaded : ofDocument document arguments caseSensitive = .ok program) {listed : Program}
    (unfilled : ofDocument document [] caseSensitive = .ok listed) :
    listed.names = program.names := by
  obtain ⟨written, opened, loads⟩ := loads_of_ofDocument loaded
  obtain ⟨_, again, lists⟩ := loads_of_ofDocument unfilled
  rw [opened] at again
  cases again
  rw [entriesOf_of_opened opened] at keysUnmarked
  refine names_eq_of_mem_iff lists.nodup_tableNames loads.nodup_tableNames fun name => ?_
  rw [lists.mem_tableNames, loads.mem_tableNames]
  refine and_congr_right fun _ => exists_congr fun entry => and_congr_right fun member => ?_
  exact names_of_none keysUnmarked member [] arguments name

theorem NamesBoard.unfilled {entries : List (Tree × Tree)} {board : String}
    (kept : ∀ entry ∈ entries, KeysKept arguments entry.2)
    (names : NamesBoard arguments entries board) :
    ∃ unfilled, NamesBoard [] entries unfilled := by
  obtain ⟨value, has, ended, named⟩ := names
  obtain ⟨entry, ⟨member, _⟩, rfl⟩ := Field.entry_of_required (Grammar.required_ok.mpr has)
  have spelled := (Grammar.reads_text _ _).mp named
  obtain ⟨unfilled, spelled⟩ :=
    spelled.unfilled (Template.resolve_unfills entry.2 (kept entry member))
  exact ⟨unfilled, entry.2, has, ended, (Grammar.reads_text _ _).mpr spelled⟩

end

/-- A document whose keys have no placeholder, and which can be loaded with arguments.  Without them
it has the same names if it can be loaded at all.  If they fill no key further down, it can be
loaded exactly if no placeholder is left where a word of the language, a size or a truth value of a
task is read. -/
theorem listing_needs_settled_tasks {document : Tree} {arguments : Arguments}
    {caseSensitive : Bool} {program : Program}
    (keysUnmarked : ∀ entry ∈ entriesOf document, placeholders entry.1 = [])
    (loaded : ofDocument document arguments caseSensitive = .ok program) :
    (∀ listed, ofDocument document [] caseSensitive = .ok listed →
      listed.names = program.names) ∧
    ((∀ entry ∈ entriesOf document, KeysKept arguments entry.2) →
      ((∃ listed, ofDocument document [] caseSensitive = .ok listed) ↔
        ∀ entry ∈ entriesOf document, ∀ name, Names [] entry name → name ≠ boardKey →
          Role.definition.Settled (resolve [] entry.2))) := by
  refine ⟨fun listed unfilled => names_unfilled keysUnmarked loaded unfilled, fun kept => ?_⟩
  obtain ⟨written, opened, loads⟩ := loads_of_ofDocument loaded
  have loadable := loadable_of_ofDocument opened loaded
  rw [entriesOf_of_opened opened] at keysUnmarked kept ⊢
  have keys := filledKeys_of_none keysUnmarked arguments []
  constructor
  · rintro ⟨listed, unfilled⟩ entry member name named isTask
    have filled : (resolve [] entry.1, entry.2) ∈ filledKeys [] written :=
      List.mem_map_of_mem member
    obtain ⟨own, same, accepted⟩ := (loadable_of_ofDocument opened unfilled).tasks _ filled
    obtain rfl := Except.ok.inj (same.symm.trans named)
    obtain ⟨body, compiled⟩ := accepted isTask
    exact ((Grammar.reads_definition caseSensitive _ _).mp (Body.compile_ok.mp compiled).2).settled
  · intro settled
    obtain ⟨board, named⟩ := NamesBoard.unfilled (fun entry member => by
      obtain ⟨old, present, rfl⟩ := List.mem_map.mp member
      exact kept old present) loadable.board
    rw [keys] at named
    have unfilled : Loadable [] caseSensitive written board := by
      refine ⟨keys ▸ loadable.differ, named, fun entry member => ?_⟩
      obtain ⟨name, known, accepted⟩ := loadable.tasks entry (keys ▸ member)
      refine ⟨name, known, fun isTask => ?_⟩
      obtain ⟨body, compiled⟩ := accepted isTask
      obtain ⟨old, present, rfl⟩ := List.mem_map.mp member
      exact (Body.compile_unfilled_iff (kept old present) compiled).mpr
        (settled old present name known isTask)
    obtain ⟨listed, done, _⟩ := unfilled.exists_ofDocument opened
    exact ⟨listed, done⟩

/-- A placeholder among the names of steps is no hindrance. -/
theorem listing_needs_settled_tasks_of_steps :
    let document : Tree := .map (lone "t" (typed "group" (.list [.text (inMarkers "a")])))
    let arguments : Arguments := [("a", .text "x")]
    ∃ program listed, ofDocument document arguments = .ok program ∧
      ofDocument document [] = .ok listed ∧ listed.names = program.names := by
  intro document arguments
  let definition := typed "group" (.list [.text (inMarkers "a")])
  have isName : Template.IsName "a".toList := .of_plain (by decide) (by decide) (by decide)
  have value : Template.substitute arguments (inMarkers "a") = "x" :=
    Template.substitute_inMarkers isName rfl
  have filled : resolve arguments definition = typed "group" (.list [.text "x"]) := by
    simp (disch := decide) [definition, typed, resolve, Template.resolveEntries,
      Template.resolveItems, Template.substitute_of_unmarked, value, Tree.ofEntries, Tree.putEntry]
  have compiled : Body.compile definition arguments = .ok (.group ["x"]) := by
    rw [Body.compile_of_finite rfl, filled]
    rfl
  obtain ⟨program, loaded⟩ : ∃ program, ofDocument document arguments = .ok program := by
    rw [ofDocument_lone (by decide) (by decide), compiled]
    exact ⟨_, rfl⟩
  have keysUnmarked : ∀ entry ∈ entriesOf document, placeholders entry.1 = [] := by
    simp (disch := decide) [document, entriesOf, Tree.opened, Field.entriesOf, lone, boardKey,
      placeholders, Template.textNames_of_unmarked]
  have kept : ∀ entry ∈ entriesOf document, KeysKept arguments entry.2 := by
    simp (disch := decide) [document, entriesOf, Tree.opened, Field.entriesOf, lone, typed,
      KeysKept, Template.EntriesKept, Template.ItemsKept, placeholders,
      Template.textNames_of_unmarked]
  have settled : Role.definition.Settled (resolve [] definition) := by
    have still : resolve [] definition = definition :=
      Grammar.resolve_typed "group" (by simp [resolve, Template.resolveItems])
    have listed : Grammar.Steps .ofNumerals (.list [.text (inMarkers "a")]) [inMarkers "a"] :=
      .list (.cons (.text _) .nil)
    have defined : Grammar.Defines .ofNumerals false definition (.group [inMarkers "a"]) :=
      .group (.here (by simp)) ⟨_, Grammar.typed_params "group" (by simp), listed⟩
    rw [still]
    exact defined.settled
  have tasks : ∀ entry ∈ entriesOf document, ∀ name, Names [] entry name → name ≠ boardKey →
      Role.definition.Settled (resolve [] entry.2) := by
    intro entry member name named isTask
    rcases List.mem_cons.mp member with rfl | later
    · rw [Names, resolve_key] at named
      exact absurd (Except.ok.inj named).symm isTask
    · obtain rfl := List.mem_singleton.mp later
      exact settled
  obtain ⟨names, lists⟩ := listing_needs_settled_tasks keysUnmarked loaded
  obtain ⟨listed, unfilled⟩ := (lists kept).mpr tasks
  exact ⟨program, listed, loaded, unfilled, names listed unfilled⟩

/-- A size and a tag that arguments bring are missed without them, the tag because its key is. -/
theorem tasks_left_unlisted :
    let counted : Tree := .map (lone "t" (sized (.text (inMarkers "n"))))
    let keyed : Tree :=
      .map (lone "t" (typed "order" (.map [(.text (inMarkers "k"), .text "sort")])))
    ((∃ program, ofDocument counted [("n", .text "5")] = .ok program) ∧
      ofDocument counted [] = .error (.ofDefinition (.noSize (.text (inMarkers "n"))))) ∧
    (∃ program, ofDocument keyed [("k", .text "type")] = .ok program) ∧
      ofDocument keyed [] = .error (.ofDefinition
        (.fieldAbsent "type" [(.text (inMarkers "k"), .text "sort")])) := by
  intro counted keyed
  have given (name value : String) (named : Template.IsName name.toList) :
      Template.substitute [(name, .text value)] (inMarkers name) = value :=
    Template.substitute_inMarkers named (by simp [Arguments.value?])
  have n : Template.IsName "n".toList := .of_plain (by decide) (by decide) (by decide)
  have k : Template.IsName "k".toList := .of_plain (by decide) (by decide) (by decide)
  have lone_of (definition : Tree) (arguments : Arguments) :
      ofDocument (.map (lone "t" definition)) arguments = _ :=
    ofDocument_lone (by decide) (by decide) definition arguments false
  refine ⟨⟨?_, ?_⟩, ?_, ?_⟩
  · have five : Field.size (.text "5") = .ok 5 := by rfl
    rw [lone_of, Body.compile_of_finite rfl, Grammar.resolve_sized, Template.resolve_text,
      given "n" "5" n, Grammar.ofTree_sized (by simp), five]
    exact ⟨_, rfl⟩
  · rw [lone_of, Body.compile_of_finite rfl, Grammar.resolve_sized, Template.resolve_text,
      Template.substitute_nil, Grammar.ofTree_sized (by simp)]
    rfl
  · have filled : resolve [("k", .text "type")]
        (typed "order" (.map [(.text (inMarkers "k"), .text "sort")])) =
          typed "order" (.map [(.text "type", .text "sort")]) := by
      simp (disch := decide) [typed, resolve, Template.resolveEntries,
        Template.substitute_of_unmarked, given "k" "type" k, Tree.ofEntries, Tree.putEntry]
    rw [lone_of, Body.compile_of_finite rfl, filled]
    exact ⟨_, rfl⟩
  · have still : resolve [] (typed "order" (.map [(.text (inMarkers "k"), .text "sort")])) =
        typed "order" (.map [(.text (inMarkers "k"), .text "sort")]) :=
      Grammar.resolve_typed "order" (Grammar.resolve_field _ (by simp))
    rw [lone_of, Body.compile_of_finite rfl, still]
    rfl

end Kanban.Program
