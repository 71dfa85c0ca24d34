import Kanban.Proofs.Program.Loading
import Mathlib.Data.List.Perm.Basic

namespace Kanban.Program

section

variable (arguments : Arguments) (caseSensitive : Bool)

def Accepts (entry : Tree × Tree) : Prop :=
  ∃ name, Field.text entry.1 = .ok name ∧
    (name ≠ boardKey → ∃ body, Body.compile entry.2 arguments caseSensitive = .ok body)

def NamesBoard (entries : List (Tree × Tree)) (board : String) : Prop :=
  ∃ value, Grammar.Has (.map entries) boardKey value ∧ value.isFinite = true ∧
    Field.text (Template.resolve arguments value) = .ok board

structure Loadable (written : List (Tree × Tree)) (board : String) : Prop where
  differ : Tree.KeysDiffer ((filledKeys arguments written).map (·.1))
  board : NamesBoard arguments (filledKeys arguments written) board
  tasks : ∀ entry ∈ filledKeys arguments written, Accepts arguments caseSensitive entry

end

section

variable {arguments : Arguments} {caseSensitive : Bool} {entries written : List (Tree × Tree)}

theorem exists_readTasks_iff {tasks : List (String × Body)} :
    (∃ final, readTasks arguments caseSensitive tasks entries = .ok final) ↔
      ∀ entry ∈ entries, Accepts arguments caseSensitive entry := by
  induction entries generalizing tasks with
  | nil => exact iff_of_true ⟨tasks, rfl⟩ nofun
  | cons entry rest ih =>
      rw [List.forall_mem_cons]
      constructor
      · rintro ⟨final, read⟩
        obtain ⟨name, named, onward⟩ := Field.bind_ok.mp read
        by_cases board : name = boardKey
        · rw [if_pos board] at onward
          exact ⟨⟨name, named, absurd board⟩, ih.mp ⟨final, onward⟩⟩
        · rw [if_neg board] at onward
          obtain ⟨body, compiled, reads⟩ := Field.bind_ok.mp onward
          exact ⟨⟨name, named, fun _ => ⟨body, compiled⟩⟩, ih.mp ⟨final, reads⟩⟩
      · rintro ⟨⟨name, named, accepted⟩, later⟩
        by_cases board : name = boardKey
        · obtain ⟨final, read⟩ :
              ∃ final, readTasks arguments caseSensitive tasks rest = .ok final := ih.mpr later
          refine ⟨final, Field.bind_ok.mpr ⟨name, named, ?_⟩⟩
          rwa [if_pos board]
        · obtain ⟨body, compiled⟩ := accepted board
          obtain ⟨final, read⟩ :
              ∃ final, readTasks arguments caseSensitive (putTask tasks name body) rest =
                .ok final := ih.mpr later
          refine ⟨final, Field.bind_ok.mpr ⟨name, named, ?_⟩⟩
          rw [if_neg board]
          exact Field.bind_ok.mpr ⟨body, compiled, read⟩

theorem loadable_of_ofDocument {document : Tree} (opened : document.opened = .map written)
    {program : Program} (loaded : ofDocument document arguments caseSensitive = .ok program) :
    Loadable arguments caseSensitive written program.board := by
  obtain ⟨_, again, loads⟩ := loads_of_ofDocument loaded
  rw [opened] at again
  cases again
  have keys : fillKeys arguments [] written = .ok (filledKeys arguments written) :=
    fillKeys_differ loads.differ
  simp only [ofDocument, opened, keys] at loaded
  obtain ⟨_, filled, onward⟩ := Field.bind_ok.mp loaded
  cases filled
  obtain ⟨value, found, onward⟩ := Field.bind_ok.mp onward
  obtain ⟨_, finite, onward⟩ := Field.bind_ok.mp onward
  obtain ⟨ended, rfl⟩ := finite_ok.mp finite
  obtain ⟨board, named, onward⟩ := Field.bind_ok.mp onward
  obtain ⟨tasks, read, made⟩ := Field.bind_ok.mp onward
  cases made
  exact ⟨loads.differ, ⟨value, Grammar.required_ok.mp found, ended, named⟩,
    exists_readTasks_iff.mp ⟨tasks, read⟩⟩

theorem Loadable.exists_ofDocument {document : Tree} (opened : document.opened = .map written)
    {board : String} (loadable : Loadable arguments caseSensitive written board) :
    ∃ program, ofDocument document arguments caseSensitive = .ok program ∧
      program.board = board := by
  obtain ⟨differ, ⟨value, has, ended, named⟩, tasks⟩ := loadable
  have keys : fillKeys arguments [] written = .ok (filledKeys arguments written) :=
    fillKeys_differ differ
  obtain ⟨final, read⟩ : ∃ final, readTasks arguments caseSensitive []
      (filledKeys arguments written) = .ok final := exists_readTasks_iff.mpr tasks
  have found := Grammar.required_ok.mpr has
  have finite : finite value = .ok value := finite_ok.mpr ⟨ended, rfl⟩
  simp only [ofDocument, opened, keys, found, finite, named, read, bind, Except.bind]
  exact ⟨_, rfl, rfl⟩

end

theorem names_eq_of_mem_iff {program other : Program} (distinct : program.tableNames.Nodup)
    (otherDistinct : other.tableNames.Nodup)
    (same : ∀ name, name ∈ program.tableNames ↔ name ∈ other.tableNames) :
    program.names = other.names := by
  have rearranged : program.names.Perm other.names := by
    have table : program.tableNames.Perm other.tableNames :=
      (List.perm_ext_iff_of_nodup distinct otherDistinct).mpr same
    exact ((List.mergeSort_perm _ _).trans table).trans (List.mergeSort_perm _ _).symm
  have trans (s t u : String) (first : Text.atMost s t = true) (second : Text.atMost t u = true) :
      Text.atMost s u = true :=
    Text.charsAtMost_trans first second
  have total (s t : String) : (Text.atMost s t || Text.atMost t s) = true :=
    Text.charsAtMost_total s.toList t.toList
  have ascending (names : List String) :
      (names.mergeSort Text.atMost).Pairwise (Text.atMost · · = true) :=
    List.pairwise_mergeSort trans total names
  refine rearranged.eq_of_pairwise ?_ (ascending _) (ascending _)
  exact fun _ _ _ _ before after => String.toList_inj.mp (Text.charsAtMost_antisymm before after)

end Kanban.Program
