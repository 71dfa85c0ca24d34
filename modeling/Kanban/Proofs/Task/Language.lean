import Kanban.Proofs.Task.Reading
import Kanban.Proofs.Template.Readable

namespace Kanban

namespace Grammar

theorem params_ok {node : Tree} {β : Type} {next : Tree → Except Failure β} {result : β} :
    (Field.withDefault node "params" .ok (.map []) >>= next) = .ok result ↔
      ∃ params, Params .ofNumerals node params ∧ next params = .ok result := by
  have reads : Reads Except.ok Eq := by
    intro tree value
    exact ⟨Except.ok.inj, congrArg Except.ok⟩
  simp only [Field.bind_ok, withDefault_ok reads]

section

variable {params : Tree} {body : Body}

theorem take_ok :
    Body.takeOfTree params = .ok body ↔
      ∃ source size place, body = .take source size place ∧
        Optional .ofNumerals (Sources .ofNumerals) params "from" .pipe source ∧
        Optional .ofNumerals (Words Place.word) params "place" .top place ∧
        Optional .ofNumerals (Counts .ofNumerals) params "size" 0 size := by
  simp only [Body.takeOfTree, Field.bind_ok, withDefault_ok reads_source,
    withDefault_ok reads_place, withDefault_ok reads_size]
  constructor
  · rintro ⟨source, sourced, place, placed, size, sized, done⟩
    cases done
    exact ⟨source, size, place, rfl, sourced, placed, sized⟩
  · rintro ⟨source, size, place, rfl, sourced, placed, sized⟩
    exact ⟨source, sourced, place, placed, size, sized, rfl⟩

theorem order_ok :
    Body.orderOfTree params = .ok body ↔
      ∃ kind source, body = .order kind source ∧ Tagged params (OrderKind.word kind) ∧
        Optional .ofNumerals (Sources .ofNumerals) params "from" .pipe source := by
  simp only [Body.orderOfTree, Field.bind_ok, withDefault_ok reads_source, tag_ok,
    choice_ok OrderKind.ofWord?_eq_some]
  constructor
  · rintro ⟨source, sourced, tag, tagged, kind, rfl, done⟩
    cases done
    exact ⟨kind, source, rfl, tagged, sourced⟩
  · rintro ⟨kind, source, rfl, tagged, sourced⟩
    exact ⟨source, sourced, _, tagged, kind, rfl, rfl⟩

theorem criterion_ok {criterion : FilterBy} :
    (∃ written, Field.withDefault params "by" Field.word "name" = .ok written ∧
        criterion.word = written) ↔
      Optional .ofNumerals (Words FilterBy.word) params "by" .name criterion := by
  have reads : Reads Field.word fun tree written => tree = .text written :=
    fun _ _ => word_ok
  simp only [withDefault_ok reads]
  constructor
  · rintro ⟨written, (⟨tree, found, rfl⟩ | ⟨lacking, writable⟩), same⟩
    · exact .given ⟨_, found, same ▸ .word criterion⟩
    · obtain rfl := Option.some.inj (FilterBy.ofWord?_eq_some.mpr same)
      exact .absent lacking writable
  · rintro (⟨tree, found, ⟨⟩⟩ | ⟨lacking, writable⟩)
    · exact ⟨_, .given ⟨_, found, rfl⟩, rfl⟩
    · exact ⟨_, .absent lacking writable, rfl⟩

theorem filter_ok {caseSensitive : Bool} :
    Body.filterOfTree params caseSensitive = .ok body ↔
      ∃ criterion value sensitive, body = .filter criterion value sensitive ∧
        Optional .ofNumerals (Words FilterBy.word) params "by" .name criterion ∧
        Mandatory (Spells .ofNumerals) params "rhs" value ∧
        Optional .ofNumerals Flags params "case" caseSensitive sensitive := by
  simp only [Body.filterOfTree, Field.bind_ok, choice_ok FilterBy.ofWord?_eq_some, required_ok,
    reads_text _ _, withDefault_ok reads_flag, ← criterion_ok]
  constructor
  · rintro ⟨written, chosen, criterion, same, tree, found, value, spelled, sensitive, flagged,
      done⟩
    cases done
    exact ⟨criterion, value, sensitive, rfl, ⟨written, chosen, same⟩, ⟨tree, found, spelled⟩,
      flagged⟩
  · rintro ⟨criterion, value, sensitive, rfl, ⟨written, chosen, same⟩, ⟨tree, found, spelled⟩,
      flagged⟩
    exact ⟨written, chosen, criterion, same, tree, found, value, spelled, sensitive, flagged,
      rfl⟩

end

theorem reads_definition (caseSensitive : Bool) :
    Reads (Body.ofTree · caseSensitive) (Defines .ofNumerals caseSensitive) := by
  intro node body
  show Body.ofTree node caseSensitive = .ok body ↔ _
  rw [Body.ofTree, Field.bind_ok]
  constructor
  · rintro ⟨tag, read, done⟩
    have tagged := tag_ok.mp read
    split at done
    next =>
      obtain ⟨params, given, done⟩ := params_ok.mp done
      obtain ⟨source, size, place, rfl, sourced, placed, sized⟩ := take_ok.mp done
      exact .take tagged given sourced placed sized
    next =>
      obtain ⟨params, given, done⟩ := params_ok.mp done
      obtain ⟨kind, source, rfl, ordered, sourced⟩ := order_ok.mp done
      exact .order tagged given ordered sourced
    next =>
      obtain ⟨params, given, done⟩ := params_ok.mp done
      obtain ⟨criterion, value, sensitive, rfl, chosen, spelled, flagged⟩ := filter_ok.mp done
      exact .filter tagged given chosen spelled flagged
    next =>
      obtain ⟨params, given, done⟩ := params_ok.mp done
      obtain ⟨action, read, done⟩ := Field.bind_ok.mp done
      cases done
      exact .act tagged given ((reads_action _ _).mp read)
    next =>
      obtain ⟨steps, listed, done⟩ := (mandatory_ok reads_steps).mp done
      cases done
      exact .group tagged listed
    next =>
      obtain ⟨steps, listed, done⟩ := (mandatory_ok reads_steps).mp done
      cases done
      exact .flow tagged listed
    next => cases done
  · intro defined
    cases defined with
    | take tagged given sourced placed sized =>
        refine ⟨_, tag_ok.mpr tagged, params_ok.mpr ⟨_, given, ?_⟩⟩
        exact take_ok.mpr ⟨_, _, _, rfl, sourced, placed, sized⟩
    | order tagged given ordered sourced =>
        refine ⟨_, tag_ok.mpr tagged, params_ok.mpr ⟨_, given, ?_⟩⟩
        exact order_ok.mpr ⟨_, _, rfl, ordered, sourced⟩
    | filter tagged given chosen spelled flagged =>
        refine ⟨_, tag_ok.mpr tagged, params_ok.mpr ⟨_, given, ?_⟩⟩
        exact filter_ok.mpr ⟨_, _, _, rfl, chosen, spelled, flagged⟩
    | act tagged given acting =>
        refine ⟨_, tag_ok.mpr tagged, params_ok.mpr ⟨_, given, ?_⟩⟩
        exact Field.bind_ok.mpr ⟨_, (reads_action _ _).mpr acting, rfl⟩
    | group tagged listed =>
        exact ⟨_, tag_ok.mpr tagged, (mandatory_ok reads_steps).mpr ⟨_, listed, rfl⟩⟩
    | flow tagged listed =>
        exact ⟨_, tag_ok.mpr tagged, (mandatory_ok reads_steps).mpr ⟨_, listed, rfl⟩⟩

/-! For each limit, definitions that only the limit takes away. -/

def typed (type : String) (params : Tree) : Tree :=
  .map [(.text "type", .text type), (.text "params", params)]

section

variable {params value : Tree} {number : Int}

theorem typed_params (type : String) (notNull : params ≠ .null) :
    Has (typed type params) "params" params :=
  .later (by decide) (.here notNull)

theorem typed_isFinite (type : String) (finite : params.isFinite = true) :
    (typed type params).isFinite = true := by
  simp [typed, Tree.isFinite, Tree.entriesAreFinite, finite]

theorem resolve_typed (type : String) (still : Template.resolve [] params = params) :
    Template.resolve [] (typed type params) = typed type params := by
  simp [typed, Template.resolve, Template.resolveEntries, still, Tree.ofEntries, Tree.putEntry]

theorem resolve_field (name : String) (still : Template.resolve [] value = value) :
    Template.resolve [] (.map [(.text name, value)]) = .map [(.text name, value)] := by
  simp [Template.resolve, Template.resolveEntries, still, Tree.ofEntries, Tree.putEntry]

theorem lacks_other {name other : String} (differ : name ≠ other) :
    Lacks (.map [(.text name, value)]) other :=
  .later differ (.nil other)

theorem ofTree_take (notNull : params ≠ .null) (caseSensitive : Bool) :
    Body.ofTree (typed "take" params) caseSensitive = Body.takeOfTree params := by
  have read : Field.tag (typed "take" params) = .ok "take" := tag_ok.mpr (.here (by simp))
  simp only [Body.ofTree, read, withDefault_given (typed_params "take" notNull), bind, Except.bind]

-- What is written stays a variable here, so that nobody computes four thousand digits of it.
theorem size_limit {written : String} {size : Nat} (counted : Counts .none (.text written) size)
    (refused : Field.size (.text written) = .error (.misuse .notANumeral)) :
    let node := typed "take" (.map [(.text "size", .text written)])
    Defines .none false (Template.resolve [] node) (.take .pipe size .top) ∧
      Body.compile node [] = .error (.misuse .notANumeral) := by
  intro node
  have filled : Template.resolve [] node = node :=
    resolve_typed "take" (resolve_field "size" (by simp))
  rw [Body.compile_of_finite (typed_isFinite "take" rfl), filled]
  constructor
  · exact .take (.here (by simp)) (.given ⟨_, typed_params _ (by simp), rfl⟩)
      (.absent (lacks_other (by decide)) trivial) (.absent (lacks_other (by decide)) trivial)
      (.given ⟨_, .here (by simp), counted⟩)
  · have writable : (Tree.map [(.text "size", .text written)]).isWritable = true := by
      simp [Tree.isWritable, Tree.entriesAreWritable]
    rw [ofTree_take (by simp), Body.takeOfTree,
      withDefault_lacking (lacks_other (by decide)) writable,
      withDefault_lacking (lacks_other (by decide)) writable,
      withDefault_given (.here (by simp)), refused]
    rfl

theorem text_limit (long : Number.isWritable number = false) :
    let node := typed "group" (.list [.int number])
    Defines .none false (Template.resolve [] node) (.group [Tree.intText number]) ∧
      Body.compile node [] = .error (.misuse .notANumeral) := by
  intro node
  have filled : Template.resolve [] node = node := resolve_typed "group" rfl
  have given : Has node "params" (.list [.int number]) := typed_params "group" (by simp)
  rw [Body.compile_of_finite (typed_isFinite "group" rfl), filled]
  constructor
  · exact .group (.here (by simp)) ⟨_, given, .list (.cons (.int trivial) .nil)⟩
  · have read : Field.tag node = .ok "group" := tag_ok.mpr (.here (by simp))
    have refused : Field.steps (.list [.int number]) = .error (.misuse .notANumeral) := by
      simp [Field.steps, Field.texts, Field.text, long, bind, Except.bind]
    simp only [Body.ofTree, read, required_ok.mpr given, refused, bind, Except.bind]

theorem absence_limit (long : Number.isWritable number = false) :
    let node := typed "take" (.map [(.text "note", .int number)])
    Defines .none false (Template.resolve [] node) (.take .pipe 0 .top) ∧
      Body.compile node [] = .error (.misuse .notANumeral) := by
  intro node
  have filled : Template.resolve [] node = node := resolve_typed "take" (resolve_field "note" rfl)
  rw [Body.compile_of_finite (typed_isFinite "take" rfl), filled]
  constructor
  · exact .take (.here (by simp)) (.given ⟨_, typed_params _ (by simp), rfl⟩)
      (.absent (lacks_other (by decide)) trivial) (.absent (lacks_other (by decide)) trivial)
      (.absent (lacks_other (by decide)) trivial)
  · have unwritable : (Tree.map [(.text "note", .int number)]).isWritable = false := by
      simp [Tree.isWritable, Tree.entriesAreWritable, long]
    rw [ofTree_take (by simp), Body.takeOfTree,
      withDefault_unwritable (lacks_other (by decide)) unwritable]
    rfl

end

def padded (zeros : Nat) : String :=
  String.ofList (List.replicate zeros '0' ++ ['5'])

theorem digitsValue_padded (zeros : Nat) : Text.digitsValue (padded zeros).toList = 5 := by
  rw [padded, String.toList_ofList]
  induction zeros with
  | zero => rfl
  | succ zeros ih => exact ih

section

variable {zeros : Nat}

theorem digit_of_padded {c : Char} (member : c ∈ (padded zeros).toList) :
    Text.isDigit c = true ∧ Text.isBlank c = false := by
  rw [padded, String.toList_ofList, List.mem_append, List.mem_replicate,
    List.mem_singleton] at member
  obtain ⟨_, rfl⟩ | rfl := member <;> decide

theorem trim_padded : Text.trim (padded zeros).toList = (padded zeros).toList :=
  Text.trim_of_no_blank fun _ member => (digit_of_padded member).2

theorem counts_padded : Counts .none (.text (padded zeros)) 5 := by
  rw [← digitsValue_padded zeros]
  refine .digits trim_padded ?_ (fun c member => (digit_of_padded member).1) trivial
  simp [padded]

theorem size_padded (long : Number.mostDigits ≤ zeros) :
    Field.size (.text (padded zeros)) = .error (.misuse .notANumeral) := by
  have read : Field.digits? (padded zeros) = some 5 := by
    rw [Field.digits?, trim_padded, natural?_some]
    exact ⟨by simp [padded], fun c member => (digit_of_padded member).1, digitsValue_padded zeros⟩
  have length : (padded zeros).toList.length = zeros + 1 := by
    simp [padded]
  simp only [Field.size, read, trim_padded, length]
  exact if_neg (by omega)

end

/-- A definition is accepted exactly if it has an end and is in the grammar with numerals that can
be read and written, and then for what it says there; the limits on numerals only take definitions
away. -/
theorem compile_accepts_grammar (node : Tree) (arguments : Arguments) (caseSensitive : Bool)
    (body : Body) :
    (Body.compile node arguments caseSensitive = .ok body ↔ node.isFinite = true ∧
        Defines .ofNumerals caseSensitive (Template.resolve arguments node) body) ∧
      (Body.compile node arguments caseSensitive = .ok body →
        Defines .none caseSensitive (Template.resolve arguments node) body) := by
  have accepted := reads_definition caseSensitive (Template.resolve arguments node) body
  rw [Body.compile_ok, accepted]
  exact ⟨Iff.rfl, fun compiled => compiled.2.unlimited⟩

/-- Each limit turns away what the grammar without it has: a size of more digits than can be read,
a text that is a number of more digits than can be written, and a field left out beside one. -/
theorem long_numerals_are_refused :
    let sized := typed "take" (.map [(.text "size", .text (padded 4300))])
    let listed := typed "group" (.list [.int Number.tooLong])
    let noted := typed "take" (.map [(.text "note", .int Number.tooLong)])
    (Defines .none false (Template.resolve [] sized) (.take .pipe 5 .top) ∧
        Body.compile sized [] = .error (.misuse .notANumeral)) ∧
      (Defines .none false (Template.resolve [] listed) (.group [Tree.intText Number.tooLong]) ∧
        Body.compile listed [] = .error (.misuse .notANumeral)) ∧
      Defines .none false (Template.resolve [] noted) (.take .pipe 0 .top) ∧
        Body.compile noted [] = .error (.misuse .notANumeral) := by
  intro sized listed noted
  have long : Number.isWritable Number.tooLong = false := by
    rw [Number.isWritable, Int.natAbs_natCast]
    exact decide_eq_false (Nat.lt_irrefl Number.tooLong)
  exact ⟨size_limit counts_padded (size_padded (Nat.le_refl 4300)), text_limit long,
    absence_limit long⟩

end Grammar

end Kanban
