import Kanban.Proofs.Arguments.LastValues

/-!
Which names of arguments a text can mention.  A name is cut out of a word at the first equals sign
and may hold anything else; between two markers it is found only if it stands on one line and no
marker begins behind its first character before the closing one does.
-/
namespace Kanban

namespace Arguments

theorem names_put (arguments : Arguments) (name other : String) (value : Tree) :
    other ∈ (arguments.put name value).names ↔ other = name ∨ other ∈ arguments.names := by
  rw [names_put_ordered]
  split
  next known => exact (or_iff_right_of_imp fun same => same ▸ known).symm
  next => rw [List.mem_append, List.mem_singleton, or_comm]

/-- What words give: a name that is not empty, with a text as its value. -/
def Told (arguments : Arguments) (name : String) : Prop :=
  name ≠ "" ∧ ∃ value, arguments.value? name = some (.text value)

theorem name_of_splitWord {word name value : String} (cut : splitWord word = .ok (name, value)) :
    name ≠ "" := by
  simp only [splitWord] at cut
  split at cut
  · split at cut
    · cases cut
    next given =>
      cases cut
      intro empty
      exact given (by simpa using congrArg String.toList empty)
  · cases cut

theorem told_addWords {arguments others : Arguments} {words : List String}
    (told : ∀ name ∈ arguments.names, arguments.Told name)
    (added : addWords arguments words = .ok others) : ∀ name ∈ others.names, others.Told name := by
  induction words generalizing arguments with
  | nil =>
      cases added
      exact told
  | cons word rest ih =>
      rw [addWords] at added
      rcases cut : splitWord word with trouble | ⟨name, value⟩
      · rw [cut] at added
        cases added
      · rw [cut] at added
        refine ih ?_ added
        intro other member
        by_cases same : name = other
        · subst same
          exact ⟨name_of_splitWord cut, value, by rw [value?_put, if_pos rfl]⟩
        · rw [names_put] at member
          obtain ⟨given, known⟩ := told other (member.resolve_left (Ne.symm same))
          exact ⟨given, by rwa [value?_put, if_neg same]⟩

end Arguments

namespace Template

def inMarkers (name : String) : String :=
  String.ofList (marker ++ name.toList ++ marker)

theorem marker_prefix_cons {c : Char} {chars : List Char} :
    marker <+: c :: chars ↔ c = '~' ∧ chars.head? = some '~' := by
  cases chars <;> simp [marker, eq_comm]

/-- A search for the closing marker takes the whole name if none begins sooner, not even one that
shares a tilde with it. -/
theorem untilMarker?_closes_iff {chars after : List Char} :
    untilMarker? (chars ++ marker ++ after) = some (chars, after) ↔
      '\n' ∉ chars ∧ ¬ marker <:+: chars ++ ['~'] := by
  induction chars with
  | nil =>
      constructor
      · intro _
        exact ⟨nofun, fun inside => absurd inside.length_le (by decide)⟩
      · intro _
        rfl
  | cons c rest ih =>
      have front : (rest ++ marker ++ after).head? = (rest ++ ['~']).head? := by
        cases rest <;> rfl
      simp only [List.cons_append, List.mem_cons, List.infix_cons_iff, marker_prefix_cons, not_or]
      constructor
      · intro found
        obtain ⟨impossible, _⟩ | ⟨_, _, _, same, other, onLine, single, located⟩ :=
          untilMarker?_inv found
        · cases impossible
        · cases same
          cases other
          rw [front] at single
          obtain ⟨restOnLine, closed⟩ := ih.mp located
          exact ⟨⟨Ne.symm onLine, restOnLine⟩, fun both => single both.1 both.2, closed⟩
      · rintro ⟨⟨onLine, restOnLine⟩, single, closed⟩
        have apart : c = '~' → (rest ++ marker ++ after).head? ≠ some '~' := by
          intro tilde again
          rw [front] at again
          exact single ⟨tilde, again⟩
        rw [untilMarker?_step (Ne.symm onLine) apart, ih.mpr ⟨restOnLine, closed⟩]
        rfl

theorem isName_iff {name : List Char} :
    IsName name ↔ name ≠ [] ∧ '\n' ∉ name ∧ ¬ marker <:+: name.tail ++ ['~'] := by
  cases name with
  | nil =>
      refine iff_of_false ?_ fun given => given.1 rfl
      intro named
      exact absurd (named.closes []) (by decide)
  | cons c rest =>
      have closes (onLine : c ≠ '\n') (after : List Char) :
          name? (c :: rest ++ marker ++ after) = some (c :: rest, after) ↔
            untilMarker? (rest ++ marker ++ after) = some (rest, after) := by
        rw [List.cons_append, List.cons_append, name?, if_neg onLine]
        simp [Option.map_eq_some_iff]
      constructor
      · intro named
        have onLine : c ≠ '\n' := fun newline => named.onLine (newline ▸ List.mem_cons_self)
        have closed := untilMarker?_closes_iff.mp ((closes onLine []).mp (named.closes []))
        exact ⟨List.cons_ne_nil c rest, named.onLine, closed.2⟩
      · rintro ⟨_, onLine, closed⟩
        simp only [List.mem_cons, not_or] at onLine
        refine ⟨by simp [onLine], fun after => ?_⟩
        rw [closes (Ne.symm onLine.1)]
        exact untilMarker?_closes_iff.mpr ⟨onLine.2, closed⟩

theorem substitute_inMarkers {name : String} (named : IsName name.toList) {arguments : Arguments}
    {value : String} (known : arguments.value? name = some (.text value)) :
    substitute arguments (inMarkers name) = value := by
  have readable : Readable [.slot name.toList] := .slot named .nil
  rw [substitute_written readable (by simp [inMarkers, Piece.written])]
  simp [Piece.filled, known, Tree.shown]

theorem substitute_put_of_not_isName {name : String} (unnamed : ¬ IsName name.toList)
    (arguments : Arguments) (value : Tree) (text : String) :
    substitute (arguments.put name value) text = substitute arguments text := by
  rw [substitute, substitute]
  congr 1
  have readable := readable_pieces text.toList
  generalize pieces text.toList = row at readable ⊢
  induction readable with
  | nil => rfl
  | letter _ _ ih => rw [List.flatMap_cons, List.flatMap_cons, ih]; rfl
  | @slot other row named _ ih =>
      have differs : name ≠ String.ofList other := by
        rintro rfl
        exact unnamed (by simpa using named)
      rw [List.flatMap_cons, List.flatMap_cons, ih, Piece.filled, Arguments.value?_put,
        if_neg differs]
      rfl

/-- Arguments that come from words.  A name on one line, with no marker that begins behind its first
character before the closing one, is filled with its value; any other name is given for nothing. -/
theorem names_fill_on_one_line {words : List String} {arguments : Arguments}
    (accepted : Arguments.ofWords words = .ok arguments) {name : String}
    (given : name ∈ arguments.names) :
    let closes := '\n' ∉ name.toList ∧ ¬ marker <:+: name.toList.tail ++ ['~']
    ∃ value, arguments.value? name = some (.text value) ∧
      (closes → substitute arguments (inMarkers name) = value) ∧
      (¬ closes → ∀ other text,
        substitute (arguments.put name other) text = substitute arguments text) := by
  intro closes
  obtain ⟨nonempty, value, known⟩ := Arguments.told_addWords (by simp [Arguments.names]) accepted
    name given
  have named : IsName name.toList ↔ closes := by
    rw [isName_iff]
    exact and_iff_right (by simpa using nonempty)
  refine ⟨value, known, fun closed => ?_, fun unclosed other text => ?_⟩
  · exact substitute_inMarkers (named.mpr closed) known
  · exact substitute_put_of_not_isName (unclosed ∘ named.mp) arguments other text

theorem names_fill_on_one_line_of_colon :
    Arguments.ofWords ["my:word = x", "a=b"] = .ok [("my:word", .text "x"), ("a", .text "b")] ∧
      substitute [("my:word", .text "x"), ("a", .text "b")] (inMarkers "my:word") = "x" := by
  have accepted : Arguments.ofWords ["my:word = x", "a=b"] =
      .ok [("my:word", .text "x"), ("a", .text "b")] := by rfl
  have given : "my:word" ∈ Arguments.names [("my:word", .text "x"), ("a", .text "b")] := by decide
  obtain ⟨value, known, fills, _⟩ := names_fill_on_one_line accepted given
  cases known
  exact ⟨accepted, fills (by decide +kernel)⟩

theorem substitute_single {name : String} (unnamed : ¬ IsName name.toList) (value : Tree)
    (text : String) : substitute [(name, value)] text = text := by
  have single : [(name, value)] = Arguments.put [] name value := rfl
  rw [single, substitute_put_of_not_isName unnamed, substitute_nil]

/-- A name over two lines, one with a marker in it and one with a tilde at its end.  All are
accepted, and none of them is found between its markers. -/
theorem names_left_unfilled :
    (Arguments.ofWords ["a\nb=x"] = .ok [("a\nb", .text "x")] ∧
      substitute [("a\nb", .text "x")] "~~a\nb~~" = "~~a\nb~~") ∧
    (Arguments.ofWords ["a~~b=x"] = .ok [("a~~b", .text "x")] ∧
      substitute [("a~~b", .text "x")] "~~a~~b~~" = "~~a~~b~~") ∧
    (Arguments.ofWords ["a~=x"] = .ok [("a~", .text "x")] ∧
      substitute [("a~", .text "x")] "~~a~~~" = "~~a~~~") := by
  have unnamed : ∀ name ∈ ["a\nb", "a~~b", "a~"], ¬ IsName name.toList := by
    simp only [isName_iff]
    decide
  exact ⟨⟨by rfl, substitute_single (unnamed _ (by simp)) _ _⟩,
    ⟨by rfl, substitute_single (unnamed _ (by simp)) _ _⟩,
    ⟨by rfl, substitute_single (unnamed _ (by simp)) _ _⟩⟩

end Template

end Kanban
