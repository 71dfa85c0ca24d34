import Kanban.Proofs.Task.Rearranging
import Kanban.Proofs.Task.Replacing
import Kanban.Proofs.Template.Insertion

/-!
What becomes of a definition that is rearranged.  It is read as before, or refused for trouble of
the same kind with the same field or tag.  What a refusal shows is another matter: the whole mapping
may be shown, with whatever is not read of it, and a number in it may be too long for that.
-/
namespace Kanban

open Grammar (Has Lacks FieldAlike)

def DefinitionTrouble.subject? : DefinitionTrouble → Option String
  | fieldAbsent name _ | noMapping name _ => some name
  | unknownTag tag => some tag
  | _ => none

/-- Failures of one kind over one field or tag, whatever values they show. -/
inductive Failure.Alike : Failure → Failure → Prop where
  | same (failure : Failure) : Alike failure failure
  | definition {trouble other : DefinitionTrouble} :
      trouble.kind = other.kind → trouble.subject? = other.subject? →
        Alike (.trouble (.definition trouble)) (.trouble (.definition other))

/-- Results of reading two definitions that are the same or failures that are alike, unless a number
in one of the definitions is too long to be written, or it has no end, and its reading has failed
because of that. -/
inductive SameVerdict (node other : Tree) {α : Type} (Like : α → α → Prop) :
    Except Failure α → Except Failure α → Prop where
  | ok {value value' : α} : Like value value' → SameVerdict node other Like (.ok value) (.ok value')
  | error {failure failure' : Failure} :
      failure.Alike failure' → SameVerdict node other Like (.error failure) (.error failure')
  | unwritable {result : Except Failure α} :
      node.isWritable = false → SameVerdict node other Like (.error (.misuse .notANumeral)) result
  | otherUnwritable {result : Except Failure α} :
      other.isWritable = false → SameVerdict node other Like result (.error (.misuse .notANumeral))
  | endless {result : Except Failure α} :
      node.isFinite = false → SameVerdict node other Like (.error (.misuse .endless)) result
  | otherEndless {result : Except Failure α} :
      other.isFinite = false → SameVerdict node other Like result (.error (.misuse .endless))

def Comparison.ofVerdict (node other : Tree) : Comparison where
  textCounts := True
  Agree := SameVerdict node other
  ok := .ok
  error failure := .error (.same failure)
  bind same onward := by
    cases same with
    | ok like => exact onward _ _ rfl rfl like
    | error alike => exact .error alike
    | unwritable long => exact .unwritable long
    | otherUnwritable long => exact .otherUnwritable long
    | endless ends => exact .endless ends
    | otherEndless ends => exact .otherEndless ends

namespace Tree

def Spoils (part whole : Tree) : Prop :=
  part.isWritable = false → whole.isWritable = false

theorem spoils_of_item {items : List Tree} {item : Tree} (member : item ∈ items) :
    item.Spoils (.list items) := by
  intro long
  rw [isWritable_list, List.all_eq_false]
  exact ⟨item, member, Bool.eq_false_iff.mp long⟩

end Tree

theorem Grammar.Has.spoils {node value : Tree} {name : String} (has : Has node name value) :
    value.Spoils node := by
  obtain ⟨located, _⟩ := has
  intro long
  rw [Tree.isWritable_map, List.all_eq_false]
  exact ⟨_, Tree.mem_of_located located, by simp [long]⟩

section

variable {whole whole' node other : Tree} {α : Type} {Like : α → α → Prop}

theorem SameVerdict.ofDefinition {trouble trouble' : DefinitionTrouble}
    (kind : trouble.kind = trouble'.kind) (subject : trouble.subject? = trouble'.subject?)
    (spoils : ∀ value ∈ trouble.shownValues, value.Spoils whole)
    (spoils' : ∀ value ∈ trouble'.shownValues, value.Spoils whole') :
    SameVerdict whole whole' Like (.error (.ofDefinition trouble))
      (.error (.ofDefinition trouble')) := by
  unfold Failure.ofDefinition Failure.showing
  split
  next =>
    split
    next => exact .error (.definition kind subject)
    next long =>
      simp only [List.all_eq_true, not_forall, Bool.not_eq_true] at long
      obtain ⟨value, member, long⟩ := long
      exact .otherUnwritable (spoils' value member long)
  next long =>
    simp only [List.all_eq_true, not_forall, Bool.not_eq_true] at long
    obtain ⟨value, member, long⟩ := long
    exact .unwritable (spoils value member long)

/-- Parts of two definitions that are rearranged into one another. -/
structure Counterparts (whole whole' : Tree) (role : Role) (node other : Tree) : Prop where
  rearranged : role.Rearranged node other
  spoils : node.Spoils whole
  otherSpoils : other.Spoils whole'

namespace Counterparts

variable {role child : Role} {name : String}

theorem refused (parts : Counterparts whole whole' role node other)
    (trouble : Tree → DefinitionTrouble)
    (kind : (trouble node).kind = (trouble other).kind)
    (subject : (trouble node).subject? = (trouble other).subject?)
    (shown : ∀ value, (trouble value).shownValues = [value]) :
    SameVerdict whole whole' Like (.error (.ofDefinition (trouble node)))
      (.error (.ofDefinition (trouble other))) := by
  refine .ofDefinition kind subject ?_ ?_
  · simpa [shown] using parts.spoils
  · simpa [shown] using parts.otherSpoils

theorem given {value value' : Tree} (parts : Counterparts whole whole' role node other)
    (has : Has node name value) (there : Has other name value')
    (rearranged : child.Rearranged value value') :
    Counterparts whole whole' child value value' where
  rearranged := rearranged
  spoils := parts.spoils ∘ has.spoils
  otherSpoils := parts.otherSpoils ∘ there.spoils

theorem required (parts : Counterparts whole whole' role node other)
    (member : (name, child) ∈ role.fields node) :
    SameVerdict whole whole' (Counterparts whole whole' child) (Field.required node name)
      (Field.required other name) := by
  cases parts.rearranged.matches with
  | same =>
      cases found : Field.required node name with
      | error failure => exact .error (.same failure)
      | ok value =>
          have has := Grammar.required_ok.mp found
          exact .ok (parts.given has has (.refl value))
  | list => exact parts.refused (.noMapping name) rfl rfl fun _ => rfl
  | @map entries others _ alike =>
      cases alike (name, child) member with
      | given has there rearranged =>
          rw [Grammar.required_ok.mpr has, Grammar.required_ok.mpr there]
          exact .ok (parts.given has there rearranged)
      | lacking without there =>
          simp only [Field.required, Grammar.present?_none.mpr without,
            Grammar.present?_none.mpr there, Field.entriesOf]
          refine .ofDefinition rfl rfl ?_ ?_
          · simpa [DefinitionTrouble.shownValues] using parts.spoils
          · simpa [DefinitionTrouble.shownValues] using parts.otherSpoils

theorem given? (parts : Counterparts whole whole' role node other)
    (member : (name, child) ∈ role.fields node) :
    SameVerdict whole whole' (Option.Rel (Counterparts whole whole' child))
      (Field.given? node name) (Field.given? other name) := by
  cases parts.rearranged.matches with
  | same =>
      cases found : Field.given? node name with
      | error failure => exact .error (.same failure)
      | ok found' =>
          cases Field.given?_ok.mp found with
          | given given =>
              obtain ⟨value, has, rfl⟩ := given
              exact .ok (.some (parts.given has has (.refl value)))
          | absent => exact .ok .none
  | list => exact parts.refused (.noMapping name) rfl rfl fun _ => rfl
  | @map entries others _ alike =>
      cases alike (name, child) member with
      | given has there rearranged =>
          rw [Field.given?, Field.given?, Grammar.withDefault_given has,
            Grammar.withDefault_given there]
          exact .ok (.some (parts.given has there rearranged))
      | lacking without there =>
          simp only [Field.given?, Field.withDefault, Grammar.present?_none.mpr without,
            Grammar.present?_none.mpr there]
          split
          next =>
            split
            next => exact .ok .none
            next long => exact .otherUnwritable (parts.otherSpoils (Bool.eq_false_iff.mpr long))
          next long => exact .unwritable (parts.spoils (Bool.eq_false_iff.mpr long))

theorem scalar (parts : Counterparts whole whole' role node other)
    {read : Tree → Except Failure α} (trouble : Tree → DefinitionTrouble)
    (like : ∀ value, Like value value)
    (onList : ∀ items, read (.list items) = .error (.ofDefinition (trouble (.list items))))
    (onMap : ∀ entries, read (.map entries) = .error (.ofDefinition (trouble (.map entries))))
    (kind : ∀ value value', (trouble value).kind = (trouble value').kind)
    (subject : ∀ value value', (trouble value).subject? = (trouble value').subject?)
    (shown : ∀ value, (trouble value).shownValues = [value]) :
    SameVerdict whole whole' Like (read node) (read other) := by
  cases parts.rearranged.matches with
  | same =>
      cases read node with
      | error failure => exact .error (.same failure)
      | ok value => exact .ok (like value)
  | list =>
      rw [onList, onList]
      exact parts.refused trouble (kind _ _) (subject _ _) shown
  | map =>
      rw [onMap, onMap]
      exact parts.refused trouble (kind _ _) (subject _ _) shown

theorem text {Like : String → String → Prop} (parts : Counterparts whole whole' role node other)
    (like : ∀ text, Like text text) :
    SameVerdict whole whole' Like (Field.text node) (Field.text other) :=
  parts.scalar .noText like (fun _ => rfl) (fun _ => rfl) (fun _ _ => rfl) (fun _ _ => rfl)
    fun _ => rfl

theorem texts {items others : List Tree}
    (rearranged : List.Forall₂ Role.text.Rearranged items others)
    (spoils : ∀ item ∈ items, item.Spoils whole)
    (otherSpoils : ∀ item ∈ others, item.Spoils whole') :
    SameVerdict whole whole' Eq (Field.texts items) (Field.texts others) := by
  induction rearranged with
  | nil => exact .ok rfl
  | cons here _ ih =>
      simp only [List.forall_mem_cons] at spoils otherSpoils
      have parts : Counterparts whole whole' .text _ _ := ⟨here, spoils.1, otherSpoils.1⟩
      refine (Comparison.ofVerdict whole whole').bind (parts.text fun _ => rfl)
        fun first _ _ _ same => ?_
      obtain rfl := same
      refine (Comparison.ofVerdict whole whole').bind (ih spoils.2 otherSpoils.2)
        fun rest _ _ _ same => ?_
      obtain rfl := same
      exact .ok rfl

theorem steps (parts : Counterparts whole whole' role node other) :
    SameVerdict whole whole' Eq (Field.steps node) (Field.steps other) := by
  cases parts.rearranged.matches with
  | same =>
      cases Field.steps node with
      | error failure => exact .error (.same failure)
      | ok steps => exact .ok rfl
  | list rearranged =>
      exact texts rearranged (fun _ member => parts.spoils ∘ Tree.spoils_of_item member)
        fun _ member => parts.otherSpoils ∘ Tree.spoils_of_item member
  | map => exact parts.refused .noList rfl rfl fun _ => rfl

end Counterparts

theorem SameVerdict.imp {Other : α → α → Prop} {result other' : Except Failure α}
    (weaker : ∀ value value', Like value value' → Other value value')
    (same : SameVerdict whole whole' Like result other') :
    SameVerdict whole whole' Other result other' := by
  cases same with
  | ok like => exact .ok (weaker _ _ like)
  | error alike => exact .error alike
  | unwritable long => exact .unwritable long
  | otherUnwritable long => exact .otherUnwritable long
  | endless ends => exact .endless ends
  | otherEndless ends => exact .otherEndless ends

end

theorem respects_counterparts (whole whole' : Tree) :
    (Comparison.ofVerdict whole whole').Respects (Counterparts whole whole') where
  required parts member := parts.required member
  given parts member := parts.given? member
  word parts := parts.scalar .noText (fun _ => rfl) (fun _ => rfl) (fun _ => rfl) (fun _ _ => rfl)
    (fun _ _ => rfl) fun _ => rfl
  text parts := parts.text fun _ => Comparison.like_of_eq rfl
  size parts := parts.scalar .noSize (fun _ => rfl) (fun _ => rfl) (fun _ => rfl) (fun _ _ => rfl)
    (fun _ _ => rfl) fun _ => rfl
  flag parts := parts.scalar .noFlag (fun _ => rfl) (fun _ => rfl) (fun _ => rfl) (fun _ _ => rfl)
    (fun _ _ => rfl) fun _ => rfl
  steps parts := parts.steps.imp fun _ _ => Comparison.like_of_eq

namespace Body

variable {node other : Tree}

theorem ofTree_rearranged (rearranged : Role.definition.Rearranged node other)
    (caseSensitive : Bool) :
    SameVerdict node other Eq (ofTree node caseSensitive) (ofTree other caseSensitive) :=
  ((respects_counterparts node other).definition ⟨rearranged, id, id⟩ caseSensitive).imp
    fun _ _ like => like trivial

theorem compile_rearranged (rearranged : Role.definition.Rearranged node other)
    (unmarked : Template.placeholders node = []) (otherUnmarked : Template.placeholders other = [])
    (apart : Template.KeysApart (Template.resolve []) node)
    (otherApart : Template.KeysApart (Template.resolve []) other) (arguments : Arguments)
    (caseSensitive : Bool) :
    SameVerdict node other Eq (compile node arguments caseSensitive)
      (compile other arguments caseSensitive) := by
  have still {node : Tree} (unmarked : Template.placeholders node = [])
      (apart : Template.KeysApart (Template.resolve []) node) :
      Template.resolve arguments node = node := by
    have same : Template.resolve arguments node = Template.resolve [] node :=
      Template.resolve_of_none unmarked
    rw [same, Template.resolve_nil node apart]
  unfold compile
  rw [still unmarked apart, still otherUnmarked otherApart]
  split
  next =>
    split
    next => exact ofTree_rearranged rearranged caseSensitive
    next endless => exact .otherEndless (Bool.not_eq_true _ ▸ endless)
  next endless => exact .endless (Bool.not_eq_true _ ▸ endless)

end Body

end Kanban
