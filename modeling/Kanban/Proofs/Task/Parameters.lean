import Kanban.Proofs.Number.Digits
import Kanban.Proofs.Task.Language
import Kanban.Proofs.Task.Replacing
import Kanban.Proofs.Template.Insertion

namespace Kanban

open Grammar (Spells Counts Flags)

def Tree.IsLiteral : Tree → Prop
  | bool _ | int _ | real _ | undefined | text _ => True
  | _ => False

namespace Template

/-- A literal and a placeholder for it, whose name is plain and has the writing of the literal as
its value.  A number that is too long to be written has no such placeholder. -/
inductive StandsFor (arguments : Arguments) : Tree → Tree → Prop where
  | literal {value : Tree} {name : String} :
      value.IsLiteral → value.isWritable = true →
        name ≠ "" → '~' ∉ name.toList → '\n' ∉ name.toList →
        arguments.value? name = some (.text value.shown) →
        StandsFor arguments value (.text (inMarkers name))

inductive Shows : Tree → Tree → Prop where
  | literal {value : Tree} :
      value.IsLiteral → value.isWritable = true → Shows value (.text value.shown)

theorem isSwap_shows : Tree.IsSwap Shows where
  notMap shows entries same := by
    obtain ⟨literal, _⟩ := shows
    rw [same] at literal
    exact literal
  notNull shows := by
    obtain ⟨literal, _⟩ := shows
    refine ⟨fun same => ?_, nofun⟩
    rw [same] at literal
    exact literal
  writable shows _ := by
    obtain ⟨_, _⟩ := shows
    exact Tree.isWritable_text _

section

variable {arguments : Arguments}

theorem StandsFor.filled {value marked : Tree} (stands : StandsFor arguments value marked)
    (others : Arguments) (unmarked : placeholders value = []) :
    Shows (resolve others value) (resolve arguments marked) := by
  obtain ⟨literal, writable, given, plain, onLine, known⟩ := stands
  have named : IsName _ := .of_plain (by simpa using given) onLine plain
  have same : resolve others value = value := by
    cases value with
    | text written =>
        rw [placeholders] at unmarked
        have empty : substitute others written = substitute [] written :=
          substitute_of_agree (by simp [unmarked])
        rw [resolve_text, empty, substitute_nil]
    | bool | int | real | undefined => rfl
    | _ => exact absurd literal id
  rw [same, resolve_text, substitute_inMarkers named known]
  exact .literal literal writable

mutual

theorem resolve_parameters (node : Tree) {other : Tree}
    (chosen : node.Replaces (StandsFor arguments) other) (unmarked : placeholders node = []) :
    (resolve [] node).Replaces Shows (resolve arguments other) := by
  cases chosen with
  | kept =>
      have same : resolve [] node = resolve arguments node := resolve_of_none unmarked
      rw [same]
      exact .kept _
  | swapped stands => exact .swapped (stands.filled [] unmarked)
  | @list items others chosen =>
      rw [placeholders] at unmarked
      simp only [resolve]
      exact .list (resolveItems_parameters items chosen unmarked)
  | @map entries others chosen =>
      rw [placeholders] at unmarked
      simp only [resolve]
      exact .map (Tree.ofEntries_entrywise (resolveEntries_parameters entries chosen unmarked))

theorem resolveItems_parameters (items : List Tree) {others : List Tree}
    (chosen : List.Forall₂ (Tree.Replaces (StandsFor arguments)) items others)
    (unmarked : itemPlaceholders items = []) :
    List.Forall₂ (Tree.Replaces Shows) (resolveItems [] items)
      (resolveItems arguments others) := by
  cases chosen with
  | nil => exact .nil
  | @cons item other rest others first later =>
      rw [itemPlaceholders, List.append_eq_nil_iff] at unmarked
      exact .cons (resolve_parameters item first unmarked.1)
        (resolveItems_parameters rest later unmarked.2)

theorem resolveEntries_parameters (entries : List (Tree × Tree)) {others : List (Tree × Tree)}
    (chosen : List.Forall₂ (Tree.Entrywise (Tree.Replaces (StandsFor arguments))) entries others)
    (unmarked : entryPlaceholders entries = []) :
    List.Forall₂ (Tree.Entrywise (Tree.Replaces Shows)) (resolveEntries [] entries)
      (resolveEntries arguments others) := by
  match entries, chosen with
  | [], .nil => exact .nil
  | (key, value) :: rest, .cons (.entry first) later =>
      simp only [entryPlaceholders, List.append_eq_nil_iff] at unmarked
      have key : resolve [] key = resolve arguments key := resolve_of_none unmarked.1.1
      rw [resolveEntries, resolveEntries, key]
      exact .cons (.entry (resolve_parameters value first unmarked.1.2))
        (resolveEntries_parameters rest later unmarked.2)

end

end

end Template

open Template (Shows)

theorem Tree.Replaces.ofLiteral {value other : Tree} (replaces : value.Replaces Shows other)
    (literal : value.IsLiteral) :
    other = value ∨ other = .text value.shown ∧ value.isWritable = true := by
  cases replaces with
  | kept => exact .inl rfl
  | swapped shows =>
      obtain ⟨_, writable⟩ := shows
      exact .inr ⟨rfl, writable⟩
  | list | map => exact absurd literal id

theorem Tree.Replaces.ofText {written : String} {other : Tree}
    (replaces : (Tree.text written).Replaces Shows other) : other = .text written := by
  obtain same | ⟨same, _⟩ := replaces.ofLiteral trivial
  · exact same
  · exact same

namespace Grammar

variable {value other : Tree}

theorem Spells.shown {limits : Limits} {text : String} (spelled : Spells limits value text) :
    value.IsLiteral ∧ value.shown = text := by
  cases spelled <;> exact ⟨trivial, rfl⟩

theorem Spells.replaced {text : String} (spelled : Spells .ofNumerals value text)
    (replaces : value.Replaces Shows other) : Spells .ofNumerals other text := by
  obtain ⟨literal, rfl⟩ := spelled.shown
  obtain rfl | ⟨rfl, _⟩ := replaces.ofLiteral literal
  · exact spelled
  · exact .text _

theorem counts_intText {number : Nat} (writable : Number.isWritable number = true) :
    Counts .ofNumerals (.text (Tree.intText number)) number := by
  have digits : Text.trim (Tree.intText number).toList = Nat.toDigits 10 number := by
    rw [Tree.toList_intText, Text.trim_toDigits]
  have counted : Counts .ofNumerals (.text (Tree.intText number))
      (Text.digitsValue (Nat.toDigits 10 number)) :=
    .digits digits Nat.toDigits_ne_nil
      (fun _ member => Text.isDigit_of_isDigit (Text.isDigit_of_mem_toDigits member))
      (Number.isWritable_iff_length.mp writable)
  rwa [Text.digitsValue_toDigits] at counted

theorem Counts.replaced {size : Nat} (counted : Counts .ofNumerals value size)
    (replaces : value.Replaces Shows other) : Counts .ofNumerals other size := by
  cases counted with
  | int =>
      obtain rfl | ⟨rfl, writable⟩ := replaces.ofLiteral trivial
      · exact .int size
      · rw [Tree.isWritable] at writable
        exact counts_intText writable
  | digits trimmed given digits short =>
      obtain rfl := replaces.ofText
      exact .digits trimmed given digits short

theorem Flags.replaced {flag : Bool} (flagged : Flags value flag)
    (replaces : value.Replaces Shows other) : Flags other flag := by
  cases flagged with
  | bool =>
      obtain rfl | ⟨rfl, _⟩ := replaces.ofLiteral trivial
      · exact .bool flag
      · cases flag <;> exact .letters (by decide)
  | letters letters =>
      obtain rfl := replaces.ofText
      exact .letters letters

theorem Steps.replaced {steps : List String} (listed : Steps .ofNumerals value steps)
    (replaces : value.Replaces Shows other) : Steps .ofNumerals other steps := by
  obtain @⟨items, _, spelled⟩ := listed
  cases replaces with
  | kept => exact .list spelled
  | swapped shows =>
      obtain ⟨literal, _⟩ := shows
      exact absurd literal id
  | @list _ others related =>
      refine .list ?_
      induction related generalizing steps with
      | nil => exact spelled
      | cons first _ ih =>
          obtain ⟨step, others, here, onward, rfl⟩ := List.forall₂_cons_left_iff.mp spelled
          exact .cons (here.replaced first) (ih onward)

end Grammar

/-- Definitions in which literals are replaced by their writing are read alike. -/
theorem respects_shows :
    (Comparison.ofSuccess True).Respects fun _ node other => node.Replaces Shows other where
  required replaces _ :=
    Field.required_replaced Template.isSwap_shows replaces fun _ _ _ _ same => same
  given replaces _ := Field.given?_replaced Template.isSwap_shows replaces fun _ _ _ _ same => same
  word replaces written read := by
    obtain rfl := Grammar.word_ok.mp read
    obtain rfl := replaces.ofText
    exact ⟨written, read, rfl⟩
  text replaces written read :=
    ⟨written, (Grammar.reads_text _ _).mpr (((Grammar.reads_text _ _).mp read).replaced replaces),
      Comparison.like_of_eq rfl⟩
  size replaces size read :=
    ⟨size, (Grammar.reads_size _ _).mpr (((Grammar.reads_size _ _).mp read).replaced replaces), rfl⟩
  flag replaces flag read :=
    ⟨flag, (Grammar.reads_flag _ _).mpr (((Grammar.reads_flag _ _).mp read).replaced replaces), rfl⟩
  steps replaces steps read :=
    ⟨steps, (Grammar.reads_steps _ _).mpr (((Grammar.reads_steps _ _).mp read).replaced replaces),
      Comparison.like_of_eq rfl⟩

namespace Grammar

theorem size_of_unwritable {number : Nat} (long : Number.isWritable number = false) :
    Field.size (.text (Tree.intText number)) = .error (.misuse .notANumeral) := by
  have digits : Text.trim (Tree.intText number).toList = Nat.toDigits 10 number := by
    rw [Tree.toList_intText, Text.trim_toDigits]
  have read : Field.digits? (Tree.intText number) = some number := by
    rw [Field.digits?, digits, natural?_some]
    exact ⟨Nat.toDigits_ne_nil,
      fun _ member => Text.isDigit_of_isDigit (Text.isDigit_of_mem_toDigits member),
      Text.digitsValue_toDigits number⟩
  simp only [Field.size, read, digits]
  refine if_neg fun short => ?_
  rw [Number.isWritable_iff_length.mpr short] at long
  cases long

def sized (size : Tree) : Tree :=
  typed "take" (.map [
    (.text "from", .map [(.text "type", .text "board")]),
    (.text "place", .text "top"),
    (.text "size", size)])

section

variable {size : Tree}

theorem ofTree_sized (notNull : size ≠ .null) (caseSensitive : Bool) :
    Body.ofTree (sized size) caseSensitive =
      Field.size size >>= fun number => .ok (.take .board number .top) := by
  have source : Source.ofTree (.map [(.text "type", .text "board")]) = .ok .board := rfl
  have place : Place.ofTree (.text "top") = .ok .top := rfl
  rw [sized, ofTree_take (by simp), Body.takeOfTree,
    withDefault_given (.here (by simp)), source,
    withDefault_given (.later (by decide) (.here (by simp))), place,
    withDefault_given (.later (by decide) (.later (by decide) (.here notNull)))]
  rfl

theorem sized_isFinite (finite : size.isFinite = true) : (sized size).isFinite = true := by
  simp [sized, typed, Tree.isFinite, Tree.entriesAreFinite, finite]

theorem resolve_sized (arguments : Arguments) :
    Template.resolve arguments (sized size) = sized (Template.resolve arguments size) := by
  simp (disch := decide) [sized, typed, Template.resolve, Template.resolveEntries,
    Template.substitute_of_unmarked, Tree.ofEntries, Tree.putEntry]

theorem placeholders_sized (size : Tree) :
    Template.placeholders (sized size) = Template.placeholders size := by
  simp (disch := decide) [sized, typed, Template.placeholders, Template.entryPlaceholders,
    Template.textNames_of_unmarked]

theorem replaces_sized {Swaps : Tree → Tree → Prop} {other : Tree}
    (replaces : size.Replaces Swaps other) : (sized size).Replaces Swaps (sized other) :=
  .map (.cons (.entry (.kept _)) (.cons (.entry
    (.map (.cons (.entry (.kept _)) (.cons (.entry (.kept _)) (.cons (.entry replaces) .nil)))))
    .nil))

end

end Grammar

namespace Body

open Grammar (sized ofTree_sized resolve_sized placeholders_sized replaces_sized)
open Template (placeholders inMarkers StandsFor)

/-- Literals that can be written may be moved into arguments: the definition with placeholders in
their place says what the definition said. -/
theorem parameters_change_nothing {node other : Tree} {arguments : Arguments}
    {caseSensitive : Bool} {body : Body} (unmarked : placeholders node = [])
    (chosen : node.Replaces (StandsFor arguments) other)
    (compiled : compile node [] caseSensitive = .ok body) :
    compile other arguments caseSensitive = .ok body := by
  obtain ⟨finite, known⟩ := compile_ok.mp compiled
  have ends : other.isFinite = true := by
    refine Tree.isFinite_of_replaces chosen (fun _ _ stands => ?_) finite
    cases stands
    rfl
  have filled := Template.resolve_parameters node chosen unmarked
  obtain ⟨again, read, like⟩ := respects_shows.definition filled caseSensitive body known
  rw [compile_of_finite ends, read, like trivial]

/-- A number, a truth value and a word of the language, all moved into arguments. -/
theorem parameters_change_nothing_of_filter :
    let strict (criterion value sensitive : Tree) := Grammar.typed "filter" (.map
      [(.text "by", criterion), (.text "rhs", value), (.text "case", sensitive)])
    let arguments : Arguments := [("c", .text "True"), ("b", .text "label"), ("r", .text "-7")]
    compile (strict (.text "label") (.int (-7)) (.bool true)) [] =
        .ok (.filter .label "-7" true) ∧
      compile (strict (.text (inMarkers "b")) (.text (inMarkers "r")) (.text (inMarkers "c")))
        arguments = .ok (.filter .label "-7" true) := by
  intro strict arguments
  have stands (value : Tree) (name : String) (literal : value.IsLiteral)
      (writable : value.isWritable = true) (given : name ≠ "") (plain : '~' ∉ name.toList)
      (onLine : '\n' ∉ name.toList)
      (known : arguments.value? name = some (.text value.shown)) :
      value.Replaces (StandsFor arguments) (.text (inMarkers name)) :=
    .swapped (.literal literal writable given plain onLine known)
  have unmarked : placeholders (strict (.text "label") (.int (-7)) (.bool true)) = [] := by
    simp (disch := decide) [strict, Grammar.typed, placeholders, Template.entryPlaceholders,
      Template.textNames_of_unmarked]
  have short : Number.isWritable (-7) = true := by decide +kernel
  have compiled : compile (strict (.text "label") (.int (-7)) (.bool true)) [] =
      .ok (.filter .label "-7" true) := by
    have still : Template.resolve [] (strict (.text "label") (.int (-7)) (.bool true)) =
        strict (.text "label") (.int (-7)) (.bool true) := by
      simp [strict, Grammar.typed, Template.resolve, Template.resolveEntries, Tree.ofEntries,
        Tree.putEntry]
    rw [compile_of_finite (Grammar.typed_isFinite "filter" rfl), still]
    refine (Grammar.reads_definition false _ _).mpr (.filter (.here (by simp))
      (.given ⟨_, Grammar.typed_params _ (by simp), rfl⟩) ?_ ?_ ?_)
    · exact .given ⟨_, .here (by simp), .word FilterBy.label⟩
    · exact ⟨_, .later (by decide) (.here (by simp)), .int short⟩
    · exact .given ⟨_, .later (by decide) (.later (by decide) (.here (by simp))), .bool true⟩
  refine ⟨compiled, parameters_change_nothing unmarked ?_ compiled⟩
  refine .map (.cons (.entry (.kept _)) (.cons (.entry (.map ?_)) .nil))
  refine .cons (.entry ?_) (.cons (.entry ?_) (.cons (.entry ?_) .nil))
  · exact stands _ "b" trivial (by simp) (by decide) (by decide) (by decide) rfl
  · exact stands _ "r" trivial short (by decide) (by decide) (by decide) rfl
  · exact stands _ "c" trivial (by simp [Tree.isWritable]) (by decide) (by decide) (by decide) rfl

/-- A size of more digits than can be read, written with them in an argument, is refused. -/
theorem long_sizes_are_no_parameters :
    let size := Tree.int Number.tooLong
    let arguments : Arguments := [("k", .text size.shown)]
    placeholders (sized size) = [] ∧
      (sized size).Replaces (fun value other => value = size ∧ other = .text (inMarkers "k"))
        (sized (.text (inMarkers "k"))) ∧
      compile (sized size) [] = .ok (.take .board Number.tooLong .top) ∧
      compile (sized (.text (inMarkers "k"))) arguments = .error (.misuse .notANumeral) := by
  intro size arguments
  have isName : Template.IsName "k".toList := .of_plain (by decide) (by decide) (by decide)
  refine ⟨?_, replaces_sized (.swapped ⟨rfl, rfl⟩), ?_, ?_⟩
  · rw [placeholders_sized]
    rfl
  · have still : Template.resolve [] size = size := rfl
    have given (number : Int) : Tree.int number ≠ .null := nofun
    have read : Field.size size = .ok Number.tooLong :=
      (Grammar.reads_size _ _).mpr (.int Number.tooLong)
    rw [compile_of_finite (Grammar.sized_isFinite rfl), resolve_sized, still,
      ofTree_sized (given _), read]
    rfl
  · have value : Template.resolve arguments (.text (inMarkers "k")) = .text size.shown := by
      rw [Template.resolve_text, Template.substitute_inMarkers isName rfl]
    rw [compile_of_finite (Grammar.sized_isFinite rfl), resolve_sized, value,
      ofTree_sized (by simp)]
    have refused : Field.size (.text size.shown) = .error (.misuse .notANumeral) :=
      Grammar.size_of_unwritable Number.not_isWritable_tooLong
    rw [refused]
    rfl

end Body

end Kanban
