import Kanban.Proofs.Template.Keys

namespace Kanban

def Arguments.shownValue (arguments : Arguments) (name : String) : String :=
  match arguments.value? name with
  | some value => value.shown
  | none => ""

namespace Template

/-- A text cut at the placeholders that are to be filled: what stands before the first of them, and
for each of them its name with what stands behind it. -/
structure Cut where
  first : String
  rest : List (String × String)

namespace Cut

def joined (cut : Cut) (inPlaceOf : String → String) : String :=
  cut.first ++ String.join (cut.rest.map fun hole => inPlaceOf hole.1 ++ hole.2)

def empty : Cut where
  first := ""
  rest := []

def behind (literal : String) (cut : Cut) : Cut :=
  { cut with first := literal ++ cut.first }

def opened (name : String) (cut : Cut) : Cut where
  first := ""
  rest := (name, cut.first) :: cut.rest

variable {cut : Cut} {inPlaceOf : String → String}

@[simp] theorem joined_empty : empty.joined inPlaceOf = "" := rfl

@[simp] theorem joined_behind (literal : String) :
    (cut.behind literal).joined inPlaceOf = literal ++ cut.joined inPlaceOf := by
  simp [joined, behind, String.append_assoc]

@[simp] theorem joined_opened (name : String) :
    (cut.opened name).joined inPlaceOf = inPlaceOf name ++ cut.joined inPlaceOf := by
  simp [joined, opened, String.append_assoc]

end Cut

def cutRow (known : List String) : List Piece → Cut
  | [] => .empty
  | .letter c :: row => (cutRow known row).behind (String.ofList (Piece.letter c).written)
  | .slot name :: row =>
      if String.ofList name ∈ known then
        (cutRow known row).opened (String.ofList name)
      else
        (cutRow known row).behind (String.ofList (Piece.slot name).written)

def cut (known : List String) (text : String) : Cut :=
  cutRow known (pieces text.toList)

section

variable {known : List String} {row : List Piece}

theorem known_of_cutRow : ∀ hole ∈ (cutRow known row).rest, hole.1 ∈ known := by
  induction row with
  | nil => nofun
  | cons piece row ih =>
      cases piece with
      | letter c => exact ih
      | slot name =>
          rw [cutRow]
          split
          next member =>
            intro hole found
            rcases List.mem_cons.mp found with rfl | later
            · exact member
            · exact ih hole later
          next => exact ih

theorem inMarkers_ofList (name : List Char) :
    inMarkers (String.ofList name) = String.ofList (Piece.slot name).written := by
  simp [inMarkers, Piece.written]

theorem cutRow_written :
    (cutRow known row).joined inMarkers = String.ofList (spelled row) := by
  induction row with
  | nil => rfl
  | cons piece row ih =>
      rw [spelled_cons, String.ofList_append, ← ih]
      cases piece with
      | letter c => rw [cutRow, Cut.joined_behind]
      | slot name =>
          rw [cutRow]
          split
          next => rw [Cut.joined_opened, inMarkers_ofList]
          next => rw [Cut.joined_behind]

theorem cutRow_filled {arguments : Arguments}
    (named : ∀ name, name ∈ arguments.names ↔ name ∈ known) :
    (cutRow known row).joined arguments.shownValue =
      String.ofList (row.flatMap (Piece.filled arguments)) := by
  induction row with
  | nil => rfl
  | cons piece row ih =>
      rw [List.flatMap_cons, String.ofList_append, ← ih]
      cases piece with
      | letter c => rw [cutRow, Cut.joined_behind, Piece.written, Piece.filled]
      | slot name =>
          rw [cutRow]
          split
          next member =>
            obtain ⟨value, found⟩ := Arguments.value?_of_named ((named _).mpr member)
            rw [Cut.joined_opened, Arguments.shownValue, Piece.filled, found, String.ofList_toList]
          next other =>
            have unknown := Arguments.value?_of_unnamed (other ∘ (named _).mp)
            rw [Cut.joined_behind, Piece.filled, unknown]

end

theorem cut_written (known : List String) (text : String) :
    (cut known text).joined inMarkers = text := by
  rw [cut, cutRow_written, spelled_pieces, String.ofList_toList]

theorem cut_filled {arguments : Arguments} {known : List String}
    (named : ∀ name, name ∈ arguments.names ↔ name ∈ known) (text : String) :
    (cut known text).joined arguments.shownValue = substitute arguments text :=
  cutRow_filled named

mutual

/-- The tree with every text of it changed, keys of mappings included. -/
def retext (change : String → String) : Tree → Tree
  | .text value => .text (change value)
  | .list items => .list (retextItems change items)
  | .map entries => .map (Tree.ofEntries (retextEntries change entries))
  | other => other

def retextItems (change : String → String) : List Tree → List Tree
  | [] => []
  | item :: items => retext change item :: retextItems change items

def retextEntries (change : String → String) : List (Tree × Tree) → List (Tree × Tree)
  | [] => []
  | (key, value) :: entries =>
      (retext change key, retext change value) :: retextEntries change entries

end

mutual

theorem retext_substitute (arguments : Arguments) (node : Tree) :
    retext (substitute arguments) node = resolve arguments node := by
  cases node with
  | text | null | bool | int | real | undefined | date | endless | foreign => simp [retext, resolve]
  | list items => rw [retext, resolve, retextItems_substitute arguments items]
  | map entries => rw [retext, resolve, retextEntries_substitute arguments entries]

theorem retextItems_substitute (arguments : Arguments) (items : List Tree) :
    retextItems (substitute arguments) items = resolveItems arguments items := by
  cases items with
  | nil => rfl
  | cons item items =>
      rw [retextItems, resolveItems, retext_substitute arguments item,
        retextItems_substitute arguments items]

theorem retextEntries_substitute (arguments : Arguments) (entries : List (Tree × Tree)) :
    retextEntries (substitute arguments) entries = resolveEntries arguments entries := by
  match entries with
  | [] => rfl
  | (key, value) :: entries =>
      rw [retextEntries, resolveEntries, retext_substitute arguments key,
        retext_substitute arguments value, retextEntries_substitute arguments entries]

end

section

variable {arguments others : Arguments}

mutual

theorem resolve_of_agree (node : Tree)
    (agree : ∀ name ∈ placeholders node, arguments.value? name = others.value? name) :
    resolve arguments node = resolve others node := by
  cases node with
  | null | bool | int | real | undefined | date | endless | foreign => simp only [resolve]
  | text value => rw [resolve_text, resolve_text, substitute_of_agree agree]
  | list items => rw [resolve, resolve, resolveItems_of_agree items agree]
  | map entries => rw [resolve, resolve, resolveEntries_of_agree entries agree]

theorem resolveItems_of_agree (items : List Tree)
    (agree : ∀ name ∈ itemPlaceholders items, arguments.value? name = others.value? name) :
    resolveItems arguments items = resolveItems others items := by
  cases items with
  | nil => rfl
  | cons item items =>
      rw [resolveItems, resolveItems,
        resolve_of_agree item fun name first => agree name (List.mem_append_left _ first),
        resolveItems_of_agree items fun name later => agree name (List.mem_append_right _ later)]

theorem resolveEntries_of_agree (entries : List (Tree × Tree))
    (agree : ∀ name ∈ entryPlaceholders entries, arguments.value? name = others.value? name) :
    resolveEntries arguments entries = resolveEntries others entries := by
  match entries with
  | [] => rfl
  | (key, value) :: entries =>
      simp only [entryPlaceholders, List.mem_append] at agree
      rw [resolveEntries, resolveEntries,
        resolve_of_agree key fun name first => agree name (.inl (.inl first)),
        resolve_of_agree value fun name second => agree name (.inl (.inr second)),
        resolveEntries_of_agree entries fun name later => agree name (.inr later)]

end

theorem resolve_of_none {node : Tree} (unmarked : placeholders node = []) :
    resolve arguments node = resolve others node :=
  resolve_of_agree node (by simp [unmarked])

end

mutual

/-- Without arguments a tree stays what it is. -/
theorem resolve_nil (node : Tree) (apart : KeysApart (resolve []) node) :
    resolve [] node = node := by
  cases node with
  | text written => rw [resolve_text, substitute_nil]
  | null | bool | int | real | undefined | date | endless | foreign => simp only [resolve]
  | list items =>
      rw [KeysApart] at apart
      rw [resolve, resolveItems_nil items apart]
  | map entries =>
      rw [KeysApart] at apart
      rw [resolve_map apart.1, resolveEntries_nil entries apart.2]

theorem resolveItems_nil (items : List Tree) (apart : ItemsApart (resolve []) items) :
    resolveItems [] items = items := by
  cases items with
  | nil => rfl
  | cons item rest =>
      rw [ItemsApart] at apart
      rw [resolveItems, resolve_nil item apart.1, resolveItems_nil rest apart.2]

theorem resolveEntries_nil (entries : List (Tree × Tree))
    (apart : EntriesApart (resolve []) entries) : resolveEntries [] entries = entries := by
  match entries with
  | [] => rfl
  | (key, value) :: rest =>
      rw [EntriesApart] at apart
      rw [resolveEntries, resolve_nil key apart.1, resolve_nil value apart.2.1,
        resolveEntries_nil rest apart.2.2]

end

theorem textNames_of_unmarked {text : String} (unmarked : ¬ marker <:+: text.toList) :
    textNames text = [] := by
  rw [textNames, List.filterMap_eq_nil_iff]
  intro piece member
  cases piece with
  | letter c => rfl
  | slot name =>
      obtain ⟨before, after, split⟩ := List.append_of_mem member
      have written := spelled_pieces text.toList
      rw [split] at written
      refine absurd ⟨spelled before, name ++ marker ++ spelled after, ?_⟩ unmarked
      simpa [Piece.written] using written

theorem substitute_of_unmarked {text : String} (unmarked : ¬ marker <:+: text.toList)
    (arguments : Arguments) : substitute arguments text = text := by
  have empty : substitute arguments text = substitute [] text :=
    substitute_of_agree (by simp [textNames_of_unmarked unmarked])
  rw [empty, substitute_nil]

theorem placeholders_of_entry {entries : List (Tree × Tree)} {entry : Tree × Tree}
    (member : entry ∈ entries) {name : String}
    (found : name ∈ placeholders entry.1 ∨ name ∈ placeholders entry.2) :
    name ∈ entryPlaceholders entries := by
  induction entries with
  | nil => cases member
  | cons first rest ih =>
      rw [entryPlaceholders, List.mem_append, List.mem_append]
      rcases List.mem_cons.mp member with rfl | later
      · exact .inl found
      · exact .inr (ih later)

end Template

end Kanban
