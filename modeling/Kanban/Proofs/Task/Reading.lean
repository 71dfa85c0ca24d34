import Kanban.Proofs.Task.Grammar

namespace Kanban

theorem Field.bind_ok {α β : Type} {result : Except Failure α} {next : α → Except Failure β}
    {value : β} :
    result >>= next = .ok value ↔ ∃ between, result = .ok between ∧ next between = .ok value := by
  constructor
  · intro done
    cases result with
    | error failure => cases done
    | ok between => exact ⟨between, rfl, done⟩
  · rintro ⟨between, rfl, done⟩
    exact done

namespace Grammar

/-- A reader that answers what the form says of a tree, and refuses what the form does not have. -/
abbrev Reads {α : Type} (read : Tree → Except Failure α) (form : Tree → α → Prop) : Prop :=
  ∀ tree value, read tree = .ok value ↔ form tree value

section

variable {α : Type} {node : Tree} {name : String}

theorem present?_some {value : Tree} :
    Field.present? node name = .ok (some value) ↔ Has node name value := by
  constructor
  · intro found
    unfold Field.present? at found
    split at found
    next entries =>
      split at found
      next => cases found
      next notNull =>
        have located := Except.ok.inj found
        refine .field located ?_
        rintro rfl
        exact notNull located
    next => cases found
  · rintro ⟨located, notNull⟩
    simp only [Field.present?, located]
    split
    next null => exact absurd (Option.some.inj null) notNull
    next => rfl

theorem present?_none : Field.present? node name = .ok none ↔ Lacks node name := by
  constructor
  · intro found
    unfold Field.present? at found
    split at found
    next entries =>
      split at found
      next null => exact .null null
      next => exact .missing (Except.ok.inj found)
    next => cases found
  · rintro (located | located) <;> simp [Field.present?, located]

theorem required_ok {value : Tree} :
    Field.required node name = .ok value ↔ Has node name value := by
  rw [← present?_some, Field.required]
  split <;> simp_all

theorem word_ok {tree : Tree} {written : String} :
    Field.word tree = .ok written ↔ tree = .text written := by
  constructor
  · intro done
    cases tree <;> cases done
    rfl
  · rintro rfl
    rfl

theorem tag_ok {tag : String} : Field.tag node = .ok tag ↔ Tagged node tag := by
  simp only [Field.tag, Field.bind_ok, required_ok, word_ok, exists_eq_right]

variable {read : Tree → Except Failure α} {form : Tree → α → Prop}

theorem mandatory_ok (reads : Reads read form) {β : Type} {next : α → Except Failure β}
    {result : β} :
    (Field.required node name >>= fun tree => read tree >>= next) = .ok result ↔
      ∃ value, Mandatory form node name value ∧ next value = .ok result := by
  rw [← bind_assoc]
  simp only [Field.bind_ok, required_ok, reads, Mandatory]

theorem withDefault_given {tree : Tree} (found : Has node name tree)
    (read : Tree → Except Failure α) (fallback : α) :
    Field.withDefault node name read fallback = read tree := by
  rw [Field.withDefault, present?_some.mpr found]

theorem withDefault_lacking (lacking : Lacks node name) (writable : node.isWritable = true)
    (read : Tree → Except Failure α) (fallback : α) :
    Field.withDefault node name read fallback = .ok fallback := by
  rw [Field.withDefault, present?_none.mpr lacking]
  exact if_pos writable

theorem withDefault_unwritable (lacking : Lacks node name) (unwritable : node.isWritable = false)
    (read : Tree → Except Failure α) (fallback : α) :
    Field.withDefault node name read fallback = .error (.misuse .notANumeral) := by
  rw [Field.withDefault, present?_none.mpr lacking]
  exact if_neg (Bool.eq_false_iff.mp unwritable)

theorem withDefault_ok (reads : Reads read form) {fallback value : α} :
    Field.withDefault node name read fallback = .ok value ↔
      Optional .ofNumerals form node name fallback value := by
  constructor
  · intro done
    unfold Field.withDefault at done
    split at done
    next tree found => exact .given ⟨tree, present?_some.mp found, (reads _ _).mp done⟩
    next lacking =>
      split at done
      next writable =>
        cases done
        exact .absent (present?_none.mp lacking) writable
      next => cases done
    next => cases done
  · intro read
    cases read with
    | given given =>
        obtain ⟨tree, found, formed⟩ := given
        rw [withDefault_given found]
        exact (reads _ _).mpr formed
    | absent lacking writable => exact withDefault_lacking lacking writable _ _

end

theorem reads_text : Reads Field.text (Spells .ofNumerals) := by
  intro tree value
  constructor
  · intro done
    cases tree with
    | text written =>
        cases done
        exact .text _
    | int number =>
        simp only [Field.text] at done
        split at done
        next writable =>
          cases done
          exact .int writable
        next => cases done
    | real number =>
        cases done
        exact .real number
    | undefined =>
        cases done
        exact .undefined
    | _ => cases done
  · intro spelled
    cases spelled with
    | text => rfl
    | int writable =>
        simp only [Limits.ofNumerals] at writable
        simp only [Field.text, if_pos writable]
    | real => rfl
    | undefined => rfl

theorem texts_ok {items : List Tree} {steps : List String} :
    Field.texts items = .ok steps ↔ List.Forall₂ (Spells .ofNumerals) items steps := by
  induction items generalizing steps with
  | nil =>
      rw [List.forall₂_nil_left_iff]
      exact ⟨fun done => (Except.ok.inj done).symm, fun empty => empty ▸ rfl⟩
  | cons item items ih =>
      simp only [Field.texts, Field.bind_ok, ih, List.forall₂_cons_left_iff]
      constructor
      · rintro ⟨first, read, rest, onward, done⟩
        cases done
        exact ⟨first, rest, (reads_text _ _).mp read, onward, rfl⟩
      · rintro ⟨first, rest, spelled, onward, rfl⟩
        exact ⟨first, (reads_text _ _).mpr spelled, rest, onward, rfl⟩

theorem reads_steps : Reads Field.steps (Steps .ofNumerals) := by
  intro tree value
  constructor
  · intro done
    cases tree with
    | list items => exact .list (texts_ok.mp done)
    | _ => cases done
  · rintro ⟨spelled⟩
    exact texts_ok.mpr spelled

theorem natural?_some {digits : List Char} {number : Nat} :
    Text.natural? digits = some number ↔
      digits ≠ [] ∧ (∀ c ∈ digits, Text.isDigit c = true) ∧ Text.digitsValue digits = number := by
  cases digits <;> simp [Text.natural?, and_assoc]

theorem reads_size : Reads Field.size (Counts .ofNumerals) := by
  intro tree value
  constructor
  · intro done
    cases tree with
    | int number =>
        simp only [Field.size] at done
        split at done
        next => cases done
        next natural =>
          cases done
          obtain ⟨size, rfl⟩ := Int.eq_ofNat_of_zero_le (Int.not_lt.mp natural)
          exact .int size
    | text written =>
        simp only [Field.size] at done
        split at done
        next number counted =>
          split at done
          next short =>
            cases done
            obtain ⟨given, digits, rfl⟩ := natural?_some.mp counted
            exact .digits rfl given digits short
          next => cases done
        next => cases done
    | _ => cases done
  · intro counted
    cases counted with
    | int size => rfl
    | @digits written _ trimmed given digits short =>
        subst trimmed
        have counted : Field.digits? written = some _ := natural?_some.mpr ⟨given, digits, rfl⟩
        simp only [Limits.ofNumerals] at short
        simp only [Field.size, counted, if_pos short]

theorem reads_flag : Reads Field.flag Flags := by
  intro tree value
  constructor
  · intro done
    cases tree with
    | bool given =>
        cases done
        exact .bool _
    | text written =>
        simp only [Field.flag, Field.spelledFlag?] at done
        split at done
        next spelled found =>
          cases done
          split at found
          next letters =>
            cases found
            exact .letters letters
          next =>
            split at found
            next letters =>
              cases found
              exact .letters letters
            next => cases found
        next => cases done
    | _ => cases done
  · intro spelled
    cases spelled with
    | bool => rfl
    | letters letters =>
        simp only [Field.flag, Field.spelledFlag?, letters]
        cases value <;> rfl

section

variable {α : Type} {word : α → String} {ofWord? : String → Option α}

theorem choice_ok (inverse : ∀ {written value}, ofWord? written = some value ↔ word value = written)
    {written : String} {value : α} :
    Field.choice ofWord? written = .ok value ↔ word value = written := by
  rw [← inverse, Field.choice]
  cases ofWord? written <;> simp

theorem reads_word
    (inverse : ∀ {written value}, ofWord? written = some value ↔ word value = written) :
    Reads (fun tree => Field.word tree >>= Field.choice ofWord?) (Words word) := by
  intro tree value
  simp only [Field.bind_ok, word_ok, choice_ok inverse]
  constructor
  · rintro ⟨written, rfl, rfl⟩
    exact .word value
  · rintro ⟨⟩
    exact ⟨word value, rfl, rfl⟩

end

theorem reads_place : Reads Place.ofTree (Words Place.word) :=
  reads_word Place.ofWord?_eq_some

theorem reads_source : Reads Source.ofTree (Sources .ofNumerals) := by
  intro node source
  rw [Source.ofTree, Field.bind_ok]
  constructor
  · rintro ⟨tag, read, done⟩
    have tagged := tag_ok.mp read
    split at done
    next =>
      cases done
      exact .pipe tagged
    next =>
      cases done
      exact .board tagged
    next =>
      obtain ⟨name, spelled, done⟩ := (mandatory_ok reads_text).mp done
      cases done
      exact .column tagged spelled
    next => cases done
  · intro formed
    cases formed with
    | pipe tagged => exact ⟨_, tag_ok.mpr tagged, rfl⟩
    | board tagged => exact ⟨_, tag_ok.mpr tagged, rfl⟩
    | column tagged spelled =>
        exact ⟨_, tag_ok.mpr tagged, (mandatory_ok reads_text).mpr ⟨_, spelled, rfl⟩⟩

theorem reads_target : Reads Target.ofTree (Targets .ofNumerals) := by
  intro node target
  simp only [Target.ofTree, mandatory_ok reads_text, Field.bind_ok, withDefault_ok reads_place]
  constructor
  · rintro ⟨column, spelled, place, placed, done⟩
    cases done
    exact ⟨spelled, placed⟩
  · rintro ⟨spelled, placed⟩
    exact ⟨_, spelled, _, placed, rfl⟩

theorem reads_card : Reads CardInfo.ofTree (Cards .ofNumerals) := by
  intro node card
  simp only [CardInfo.ofTree, mandatory_ok reads_text, Field.bind_ok, withDefault_ok reads_text]
  constructor
  · rintro ⟨name, spelled, description, described, done⟩
    cases done
    exact ⟨spelled, described⟩
  · rintro ⟨spelled, described⟩
    exact ⟨_, spelled, _, described, rfl⟩

theorem reads_action : Reads Action.ofTree (Acts .ofNumerals) := by
  intro params action
  rw [Action.ofTree, Field.bind_ok]
  constructor
  · rintro ⟨tag, read, done⟩
    have tagged := tag_ok.mp read
    split at done
    next =>
      cases done
      exact .print tagged
    next =>
      obtain ⟨target, aimed, done⟩ := (mandatory_ok reads_target).mp done
      cases done
      exact .copy tagged aimed
    next =>
      obtain ⟨target, aimed, done⟩ := (mandatory_ok reads_target).mp done
      cases done
      exact .move tagged aimed
    next =>
      obtain ⟨target, aimed, done⟩ := (mandatory_ok reads_target).mp done
      obtain ⟨card, described, done⟩ := (mandatory_ok reads_card).mp done
      cases done
      exact .add tagged aimed described
    next => cases done
  · intro formed
    cases formed with
    | print tagged => exact ⟨_, tag_ok.mpr tagged, rfl⟩
    | copy tagged aimed =>
        exact ⟨_, tag_ok.mpr tagged, (mandatory_ok reads_target).mpr ⟨_, aimed, rfl⟩⟩
    | move tagged aimed =>
        exact ⟨_, tag_ok.mpr tagged, (mandatory_ok reads_target).mpr ⟨_, aimed, rfl⟩⟩
    | add tagged aimed described =>
        refine ⟨_, tag_ok.mpr tagged, (mandatory_ok reads_target).mpr ⟨_, aimed, ?_⟩⟩
        exact (mandatory_ok reads_card).mpr ⟨_, described, rfl⟩

end Grammar

end Kanban
