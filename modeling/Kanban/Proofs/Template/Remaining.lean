import Kanban.Proofs.Template.Composition

namespace Kanban.Template

variable {arguments : Arguments}

theorem textNames_written {text : String} {row : List Piece} (readable : Readable row)
    (written : text.toList = spelled row) : textNames text = row.filterMap Piece.name? := by
  rw [textNames, written, pieces_spelled readable]

theorem names_letters (chars : List Char) :
    (chars.map Piece.letter).filterMap Piece.name? = [] := by
  induction chars with
  | nil => rfl
  | cons c rest ih => exact ih

theorem names_settled (row : List Piece) :
    (settled arguments row).filterMap Piece.name? =
      (row.filterMap Piece.name?).filter (· ∉ arguments.names) := by
  induction row with
  | nil => rfl
  | cons piece row ih =>
      cases piece with
      | letter c => exact ih
      | slot name =>
          have first : (Piece.slot name :: row).filterMap Piece.name? =
              String.ofList name :: row.filterMap Piece.name? := rfl
          rw [first]
          -- A value is letters from now on, without a name; a slot that is not filled keeps its
          -- own.
          by_cases named : String.ofList name ∈ arguments.names
          · obtain ⟨value, known⟩ := Arguments.value?_of_named named
            rw [settled_slot_known known, List.filterMap_append, names_letters, List.nil_append, ih,
              List.filter_cons_of_neg (by simpa using named)]
          · rw [settled_slot_unknown (Arguments.value?_of_unnamed named),
              List.filter_cons_of_pos (by simpa using named), ← ih]
            rfl

theorem textNames_substitute (plain : arguments.Plain) (text : String) :
    textNames (substitute arguments text) =
      (textNames text).filter (· ∉ arguments.names) := by
  rw [textNames, substitute, String.toList_ofList, pieces_filled plain, names_settled, textNames]

mutual

theorem placeholders_resolve (plain : arguments.Plain) (node : Tree)
    (apart : KeysApart (resolve arguments) node) :
    placeholders (resolve arguments node) =
      (placeholders node).filter (· ∉ arguments.names) := by
  cases node with
  | null | bool | int | real | undefined | date | endless | foreign => simp [resolve, placeholders]
  | text value => simp [placeholders, textNames_substitute plain]
  | list items =>
      rw [KeysApart] at apart
      simp only [resolve, placeholders]
      exact itemPlaceholders_resolveItems plain items apart
  | map entries =>
      rw [KeysApart] at apart
      rw [resolve_map apart.1]
      simp only [placeholders]
      exact entryPlaceholders_resolveEntries plain entries apart.2

theorem itemPlaceholders_resolveItems (plain : arguments.Plain) (items : List Tree)
    (apart : ItemsApart (resolve arguments) items) :
    itemPlaceholders (resolveItems arguments items) =
      (itemPlaceholders items).filter (· ∉ arguments.names) := by
  cases items with
  | nil => simp [resolveItems, itemPlaceholders]
  | cons item items =>
      rw [ItemsApart] at apart
      simp only [resolveItems, itemPlaceholders, List.filter_append]
      rw [placeholders_resolve plain item apart.1,
        itemPlaceholders_resolveItems plain items apart.2]

theorem entryPlaceholders_resolveEntries (plain : arguments.Plain) (entries : List (Tree × Tree))
    (apart : EntriesApart (resolve arguments) entries) :
    entryPlaceholders (resolveEntries arguments entries) =
      (entryPlaceholders entries).filter (· ∉ arguments.names) := by
  match entries with
  | [] => simp [resolveEntries, entryPlaceholders]
  | (key, value) :: entries =>
      rw [EntriesApart] at apart
      simp only [resolveEntries, entryPlaceholders, List.filter_append]
      rw [placeholders_resolve plain key apart.1, placeholders_resolve plain value apart.2.1,
        entryPlaceholders_resolveEntries plain entries apart.2.2]

end

/-- A name is left in a filled tree just if it was there before and has no value. -/
theorem placeholders_left_unfilled (plain : arguments.Plain) (node : Tree)
    (apart : KeysApart (resolve arguments) node) :
    ∀ name, name ∈ placeholders (resolve arguments node) ↔
      name ∈ placeholders node ∧ name ∉ arguments.names := by
  intro name
  rw [placeholders_resolve plain node apart, List.mem_filter, decide_eq_true_eq]

/-- The name between two others that are filled with nothing is the one that is left. -/
theorem placeholders_left_unfilled_of_glued :
    let arguments : Arguments := [("gap", .text "")]
    let node : Tree := .map [(.text "~~gap~~k", .list [.text "~~gap~~~~size~~~~gap~~~"])]
    arguments.Plain ∧ KeysApart (resolve arguments) node ∧
      ∀ name, name ∈ placeholders (resolve arguments node) ↔ name = "size" := by
  intro arguments node
  have plain : arguments.Plain := Arguments.plain_single (by decide)
  have apart : KeysApart (resolve arguments) node := by
    simp [node, KeysApart, EntriesApart, ItemsApart, Tree.KeysDiffer]
  have gap : IsName ['g', 'a', 'p'] := .of_plain (by simp) (by simp) (by simp)
  have size : IsName ['s', 'i', 'z', 'e'] := .of_plain (by simp) (by simp) (by simp)
  have key : textNames "~~gap~~k" = ["gap"] :=
    textNames_written (.slot gap (.single 'k')) (by decide)
  have item : textNames "~~gap~~~~size~~~~gap~~~" = ["gap", "size", "gap"] :=
    textNames_written (.slot gap (.slot size (.slot gap (.single '~')))) (by decide)
  have names (name : String) : name ∈ placeholders node ↔ name = "gap" ∨ name = "size" := by
    simp only [node, placeholders, entryPlaceholders, itemPlaceholders, key, item, List.append_nil,
      List.mem_append, List.mem_cons, List.not_mem_nil, or_false]
    grind
  refine ⟨plain, apart, ?_⟩
  intro name
  rw [placeholders_left_unfilled plain node apart, names]
  constructor
  · rintro ⟨rfl | rfl, unnamed⟩
    · exact absurd (by decide) unnamed
    · rfl
  · rintro rfl
    exact ⟨.inr rfl, by decide⟩

end Kanban.Template
