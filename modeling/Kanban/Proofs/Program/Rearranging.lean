import Kanban.Proofs.Number.Digits
import Kanban.Proofs.Program.Accepting
import Kanban.Proofs.Task.Verdict

namespace Kanban.Program

open Template (resolve placeholders KeysApart)
open Grammar (typed)

section

variable {arguments : Arguments} {caseSensitive : Bool} {written others : List (Tree × Tree)}
  {program other : Program} {board : String}

theorem Loadable.perm (perm : written.Perm others)
    (differ : Tree.KeysDiffer ((filledKeys arguments others).map (·.1)))
    (loadable : Loadable arguments caseSensitive written board) :
    Loadable arguments caseSensitive others board := by
  have filled : (filledKeys arguments written).Perm (filledKeys arguments others) := perm.map _
  refine ⟨differ, ?_, fun entry member => loadable.tasks entry (filled.mem_iff.mpr member)⟩
  obtain ⟨value, has, ended, named⟩ := loadable.board
  obtain ⟨located, notNull⟩ := has
  rw [Tree.entry?_perm loadable.differ filled] at located
  exact ⟨value, .field located notNull, ended, named⟩

theorem NamesDiffer.perm (perm : written.Perm others) (differ : NamesDiffer arguments written) :
    NamesDiffer arguments others := by
  refine (perm.pairwise_iff fun apart name named taken => ?_).mp differ
  exact apart name taken named

theorem Loads.body?_eq_some_iff (loads : Loads written arguments caseSensitive program)
    (differ : NamesDiffer arguments written) {name : String} {body : Body} :
    program.body? name = some body ↔ name ≠ boardKey ∧ ∃ entry ∈ written,
      Names arguments entry name ∧
        Body.compile entry.2 arguments caseSensitive = .ok body := by
  constructor
  · intro found
    obtain ⟨isTask, entry, member, named⟩ := loads.mem_tableNames.mp (body?_mem found)
    obtain ⟨own, compiled, again⟩ := loads.own differ member named isTask
    obtain rfl := Option.some.inj (again.symm.trans found)
    exact ⟨isTask, entry, member, named, compiled⟩
  · rintro ⟨isTask, entry, member, named, compiled⟩
    obtain ⟨own, again, found⟩ := loads.own differ member named isTask
    rwa [Except.ok.inj (compiled.symm.trans again)]

theorem same_of_perm (perm : written.Perm others) (differ : NamesDiffer arguments written)
    {document document' : Tree} (opened : document.opened = .map written)
    (opened' : document'.opened = .map others)
    (loaded : ofDocument document arguments caseSensitive = .ok program)
    (loaded' : ofDocument document' arguments caseSensitive = .ok other) :
    program.board = other.board ∧ program.names = other.names ∧
      ∀ name, program.body? name = other.body? name := by
  obtain ⟨_, again, loads⟩ := loads_of_ofDocument loaded
  rw [opened] at again
  cases again
  obtain ⟨_, again, loads'⟩ := loads_of_ofDocument loaded'
  rw [opened'] at again
  cases again
  refine ⟨?_, ?_, fun name => ?_⟩
  · have here := (loadable_of_ofDocument opened loaded).perm perm loads'.differ
    obtain ⟨value, has, _, named⟩ := here.board
    obtain ⟨value', has', _, named'⟩ := (loadable_of_ofDocument opened' loaded').board
    obtain rfl := has.unique has'
    exact Except.ok.inj (named.symm.trans named')
  · refine names_eq_of_mem_iff loads.nodup_tableNames loads'.nodup_tableNames fun name => ?_
    simp only [loads.mem_tableNames, loads'.mem_tableNames, perm.mem_iff]
  · refine Option.ext fun body => ?_
    simp only [loads.body?_eq_some_iff differ,
      loads'.body?_eq_some_iff (differ.perm perm), perm.mem_iff]

end

/-- Definitions without placeholders that are rearranged into one another, by reordering entries and
by adding or removing what is null or not read, get the same verdict.  Documents with the same
entries in another order, all with different names, are loaded both or neither, with the same
board, the same names and the same task under each name. -/
theorem rearranging_changes_nothing (arguments : Arguments) (caseSensitive : Bool) :
    (∀ node other, Role.definition.Rearranged node other →
      placeholders node = [] → placeholders other = [] →
      KeysApart (resolve []) node → KeysApart (resolve []) other →
      SameVerdict node other Eq (Body.compile node arguments caseSensitive)
        (Body.compile other arguments caseSensitive)) ∧
    ∀ document other written others, document.opened = .map written →
      other.opened = .map others → written.Perm others →
      Tree.KeysDiffer (written.map fun entry => resolve arguments entry.1) →
      Tree.KeysDiffer (others.map fun entry => resolve arguments entry.1) →
      NamesDiffer arguments written →
      ((∃ program, ofDocument document arguments caseSensitive = .ok program) ↔
        ∃ program, ofDocument other arguments caseSensitive = .ok program) ∧
      ∀ program program', ofDocument document arguments caseSensitive = .ok program →
        ofDocument other arguments caseSensitive = .ok program' →
        program.board = program'.board ∧ program.names = program'.names ∧
          ∀ name, program.body? name = program'.body? name := by
  constructor
  · intro node other rearranged unmarked otherUnmarked apart otherApart
    exact Body.compile_rearranged rearranged unmarked otherUnmarked apart otherApart arguments
      caseSensitive
  · intro document other written others opened opened' perm differ differ' namesDiffer
    have keys (entries : List (Tree × Tree)) :
        (filledKeys arguments entries).map (·.1) =
          entries.map fun entry => resolve arguments entry.1 := by
      rw [filledKeys, List.map_map]
      rfl
    rw [← keys] at differ differ'
    refine ⟨⟨?_, ?_⟩, fun _ _ => same_of_perm perm namesDiffer opened opened'⟩
    · rintro ⟨program, loaded⟩
      have loadable := (loadable_of_ofDocument opened loaded).perm perm differ'
      obtain ⟨program', loaded', _⟩ := loadable.exists_ofDocument opened'
      exact ⟨program', loaded'⟩
    · rintro ⟨program, loaded⟩
      have loadable := (loadable_of_ofDocument opened' loaded).perm perm.symm differ
      obtain ⟨program', loaded', _⟩ := loadable.exists_ofDocument opened
      exact ⟨program', loaded'⟩

section

variable {params params' : Tree}

theorem fields_take :
    Role.definition.fields (typed "take" params) = [("type", .word), ("params", .take)] := by
  have read : Field.tag (typed "take" params) = .ok "take" :=
    Grammar.tag_ok.mpr (.here (by simp))
  simp [Role.fields, read]

theorem rearranges_take (step : Role.take.Rearranges params params') :
    Role.definition.Rearranges (typed "take" params) (typed "take" params') := by
  have isRead : ("params", Role.take) ∈ Role.definition.fields
      (.map ([(.text "type", .text "take")] ++ (.text "params", params) :: [])) := by
    change _ ∈ Role.definition.fields (typed "take" params)
    simp [fields_take]
  exact .inField isRead step

end

/-- One entry more that is null and one that is not read, and everything in reverse order. -/
theorem rearranging_changes_nothing_of_reverse :
    let node := typed "take" (.map [(.text "size", .int 3)])
    let other : Tree := .map [(.text "note", .list []),
      (.text "params", .map [(.text "size", .int 3), (.text "from", .null)]),
      (.text "type", .text "take")]
    let entries := paired (.text "a") (.text "b")
    Role.definition.Rearranged node other ∧ Body.compile other [] = .ok (.take .pipe 3 .top) ∧
      ∃ program, ofDocument (.map entries.reverse) [] = .ok program ∧
        program.body? "a" = some (.group []) := by
  intro node other entries
  obtain ⟨definitions, documents⟩ := rearranging_changes_nothing [] false
  let params : Tree := .map [(.text "size", .int 3), (.text "from", .null)]
  let noted : List (Tree × Tree) :=
    [(.text "type", .text "take"), (.text "params", params)] ++ [(.text "note", .list [])]
  have rearranged : Role.definition.Rearranged node other := by
    have nulled : Role.definition.Rearranges node (typed "take" params) :=
      rearranges_take (.added (.inl rfl))
    have unread : ∀ field ∈ Role.definition.fields (typed "take" params),
        Tree.text "note" ≠ .text field.1 := by
      simp [fields_take]
    have added : Role.definition.Rearranges (typed "take" params) (.map noted) :=
      .added (.inr unread)
    have differ : Tree.KeysDiffer (noted.map (·.1)) := by
      simp [noted, Tree.KeysDiffer]
    have reversed : Role.definition.Rearranges (.map noted) other :=
      .reordered differ (List.reverse_perm noted).symm
    exact .trans _ _ _ (.rel _ _ nulled) (.trans _ _ _ (.rel _ _ added) (.rel _ _ reversed))
  have short : Number.isWritable 3 = true := by decide +kernel
  have writable : node.isWritable = true ∧ other.isWritable = true := by
    simp [node, other, typed, Tree.isWritable, Tree.entriesAreWritable, Tree.itemsAreWritable,
      short]
  have unmarked : placeholders node = [] ∧ placeholders other = [] := by
    constructor <;> simp (disch := decide) [node, other, typed, placeholders,
      Template.entryPlaceholders, Template.itemPlaceholders, Template.textNames_of_unmarked]
  have apart : KeysApart (resolve []) node ∧ KeysApart (resolve []) other := by
    simp [node, other, typed, KeysApart, Template.EntriesApart, Template.ItemsApart,
      Tree.KeysDiffer]
  have compiled : Body.compile node [] = .ok (.take .pipe 3 .top) := by
    rw [Body.compile_of_finite (Grammar.typed_isFinite "take" rfl),
      Template.resolve_nil node apart.1]
    refine (Grammar.reads_definition false _ _).mpr (.take (.here (by simp))
      (.given ⟨_, Grammar.typed_params _ (by simp), rfl⟩)
      (.absent (Grammar.lacks_other (by decide)) ?_) (.absent (Grammar.lacks_other (by decide)) ?_)
      (.given ⟨_, .here (by simp), .int 3⟩)) <;>
    simp [Grammar.Limits.ofNumerals, Tree.isWritable, Tree.entriesAreWritable, short]
  have verdict := definitions node other rearranged unmarked.1 unmarked.2 apart.1 apart.2
  rw [compiled] at verdict
  refine ⟨rearranged, ?_, ?_⟩
  · generalize Body.compile other [] = result at verdict
    cases verdict with
    | ok same => rw [same]
    | otherUnwritable long => simp [writable.2] at long
    | otherEndless ends =>
        have finite : other.isFinite = true := rfl
        simp [finite] at ends
  · have loaded := ofDocument_paired (resolve_key "a") (resolve_key "b") (by rfl) rfl rfl
      (by decide) (by decide)
    have differ : Tree.KeysDiffer (entries.map fun entry => resolve [] entry.1) := by
      simp [entries, paired, boardKey, Tree.KeysDiffer]
    have differ' : Tree.KeysDiffer (entries.reverse.map fun entry => resolve [] entry.1) := by
      simp [entries, paired, boardKey, Tree.KeysDiffer]
    have names : NamesDiffer [] entries := by
      simp [entries, paired, boardKey, NamesDiffer, Names, Field.text]
    obtain ⟨both, same⟩ := documents (.map entries) (.map entries.reverse) entries entries.reverse
      rfl rfl (List.reverse_perm entries).symm differ differ' names
    obtain ⟨program, reversed⟩ := both.mp ⟨_, loaded⟩
    exact ⟨program, reversed, ((same _ _ loaded reversed).2.2 "a").symm⟩

/-- A number that nobody reads is noticed when something is said to be absent beside it. -/
theorem long_unread_numbers_are_noticed :
    let node := typed "take" (.map [])
    let other := typed "take" (.map [(.text "note", .int Number.tooLong)])
    Role.definition.Rearranges node other ∧ placeholders node = [] ∧ placeholders other = [] ∧
      Body.compile node [] = .ok (.take .pipe 0 .top) ∧
      Body.compile other [] = .error (.misuse .notANumeral) := by
  intro node other
  have unread : ∀ field ∈ Role.take.fields (.map []), Tree.text "note" ≠ .text field.1 := by
    simp [Role.fields]
  have noted (number : Int) :
      placeholders (typed "take" (.map [(.text "note", .int number)])) = [] := by
    simp (disch := decide) [typed, placeholders, Template.entryPlaceholders,
      Template.textNames_of_unmarked]
  refine ⟨rearranges_take (.added (.inr unread)), ?_, noted _, ?_,
    (Grammar.absence_limit Number.not_isWritable_tooLong).2⟩
  · simp (disch := decide) [node, typed, placeholders, Template.entryPlaceholders,
      Template.textNames_of_unmarked]
  · rw [Body.compile_of_finite (Grammar.typed_isFinite "take" rfl),
      Grammar.resolve_typed "take" rfl]
    rfl

end Kanban.Program
