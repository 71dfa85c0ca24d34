import Kanban.Proofs.Task.Reading
import Kanban.Proofs.Trouble.Expected

/-!
What a definition can be refused for.  A reader finds trouble with the definition, unless it comes
upon a number that is too long: one to be written out for its message or for a text, or one to be
read as a size.
-/
namespace Kanban

namespace Tree

/-- The parts of a value: itself and what it holds, at whatever depth. -/
inductive Holds : Tree → Tree → Prop where
  | self (tree : Tree) : Holds tree tree
  | item {items : List Tree} {item part : Tree} :
      item ∈ items → Holds item part → Holds (.list items) part
  | key {entries : List (Tree × Tree)} {entry : Tree × Tree} {part : Tree} :
      entry ∈ entries → Holds entry.1 part → Holds (.map entries) part
  | value {entries : List (Tree × Tree)} {entry : Tree × Tree} {part : Tree} :
      entry ∈ entries → Holds entry.2 part → Holds (.map entries) part
  | inside {written : String} {inside part : Tree} :
      Holds inside part → Holds (.endless written inside) part
  | yielded {value : Foreign} {items : List Tree} {item part : Tree} :
      item ∈ items → Holds item part → Holds (.foreign value items) part

/-- A number of more digits than can be written, or the digits of one with more than can be read. -/
def IsLongNumeral : Tree → Prop
  | int number => Number.isWritable number = false
  | text written =>
      (Field.digits? written).isSome = true ∧
        Number.mostDigits < (Text.trim written.toList).length
  | _ => False

def HoldsLongNumeral (tree : Tree) : Prop :=
  ∃ part, tree.Holds part ∧ part.IsLongNumeral

theorem Holds.trans {whole between part : Tree} (first : whole.Holds between)
    (second : between.Holds part) : whole.Holds part := by
  induction first with
  | self => exact second
  | item member _ ih => exact .item member (ih second)
  | key member _ ih => exact .key member (ih second)
  | value member _ ih => exact .value member (ih second)
  | inside _ ih => exact .inside (ih second)
  | yielded member _ ih => exact .yielded member (ih second)

theorem HoldsLongNumeral.within {whole part : Tree} (holds : whole.Holds part)
    (long : part.HoldsLongNumeral) : whole.HoldsLongNumeral := by
  obtain ⟨numeral, within, isLong⟩ := long
  exact ⟨numeral, holds.trans within, isLong⟩

mutual

theorem holdsLongNumeral_of_unwritable (tree : Tree) (unwritable : tree.isWritable = false) :
    tree.HoldsLongNumeral := by
  cases tree with
  | null | bool | real | undefined | text | date => simp [isWritable] at unwritable
  | int number =>
      rw [isWritable] at unwritable
      exact ⟨_, .self _, unwritable⟩
  | list items =>
      rw [isWritable] at unwritable
      obtain ⟨item, member, long⟩ := item_of_unwritable items unwritable
      exact long.within (.item member (.self _))
  | map entries =>
      rw [isWritable] at unwritable
      obtain ⟨entry, member, long | long⟩ := entry_of_unwritable entries unwritable
      · exact long.within (.key member (.self _))
      · exact long.within (.value member (.self _))
  | endless written inside =>
      rw [isWritable] at unwritable
      exact (holdsLongNumeral_of_unwritable inside unwritable).within (.inside (.self _))
  | foreign value items =>
      rw [isWritable] at unwritable
      obtain ⟨item, member, long⟩ := item_of_unwritable items unwritable
      exact long.within (.yielded member (.self _))

theorem item_of_unwritable (items : List Tree) (unwritable : itemsAreWritable items = false) :
    ∃ item ∈ items, item.HoldsLongNumeral := by
  cases items with
  | nil => simp [itemsAreWritable] at unwritable
  | cons item rest =>
      rw [itemsAreWritable, Bool.and_eq_false_iff] at unwritable
      rcases unwritable with first | later
      · exact ⟨item, List.mem_cons_self, holdsLongNumeral_of_unwritable item first⟩
      · obtain ⟨other, member, long⟩ := item_of_unwritable rest later
        exact ⟨other, List.mem_cons_of_mem _ member, long⟩

theorem entry_of_unwritable (entries : List (Tree × Tree))
    (unwritable : entriesAreWritable entries = false) :
    ∃ entry ∈ entries, entry.1.HoldsLongNumeral ∨ entry.2.HoldsLongNumeral := by
  cases entries with
  | nil => simp [entriesAreWritable] at unwritable
  | cons entry rest =>
      obtain ⟨key, value⟩ := entry
      rw [entriesAreWritable, Bool.and_eq_false_iff, Bool.and_eq_false_iff] at unwritable
      rcases unwritable with (first | second) | later
      · exact ⟨_, List.mem_cons_self, Or.inl (holdsLongNumeral_of_unwritable key first)⟩
      · exact ⟨_, List.mem_cons_self, Or.inr (holdsLongNumeral_of_unwritable value second)⟩
      · obtain ⟨other, member, long⟩ := entry_of_unwritable rest later
        exact ⟨other, List.mem_cons_of_mem _ member, long⟩

end

end Tree

/-- What a reader of a value may fail with: trouble with the definition, or a numeral that is too
long somewhere in the value. -/
inductive Failure.Blames (node : Tree) : Failure → Prop where
  | definition (trouble : DefinitionTrouble) : Blames node (.trouble (.definition trouble))
  | numeral : node.HoldsLongNumeral → Blames node (.misuse .notANumeral)

theorem Grammar.Has.holds {node value : Tree} {name : String}
    (found : Grammar.Has node name value) : node.Holds value := by
  obtain ⟨located, _⟩ := found
  obtain ⟨entry, found, rfl⟩ := Option.map_eq_some_iff.mp located
  exact .value (List.mem_of_find?_eq_some found) (.self _)

namespace Field

abbrev Refuses (node : Tree) (result : Except Failure α) : Prop :=
  FailsOnlyWith (Failure.Blames node) result

namespace Refuses

variable {node : Tree}

theorem within {part : Tree} {result : Except Failure α} (holds : node.Holds part)
    (refuses : Refuses part result) : Refuses node result := by
  intro failure failed
  cases refuses failure failed with
  | definition trouble => exact .definition trouble
  | numeral long => exact .numeral (long.within holds)

theorem of_empty {result : Except Failure α} (refuses : Refuses (.map []) result) :
    Refuses node result := by
  refine refuses.mono fun failure blamed => ?_
  cases blamed with
  | definition trouble => exact .definition trouble
  | numeral long =>
      obtain ⟨part, holds, isLong⟩ := long
      cases holds with
      | self => cases isLong
      | key member | value member => cases member

theorem numeral (long : node.HoldsLongNumeral) :
    Refuses node (.error (.misuse .notANumeral) : Except Failure α) :=
  .error (.numeral long)

theorem ofDefinition {trouble : DefinitionTrouble}
    (shown : ∀ value ∈ trouble.shownValues, value.isWritable = false → node.HoldsLongNumeral) :
    Refuses node (.error (.ofDefinition trouble) : Except Failure α) :=
  .showing (.definition trouble) fun value member long => .numeral (shown value member long)

theorem ofDefinition_self {trouble : DefinitionTrouble}
    (shown : ∀ value ∈ trouble.shownValues, value = node) :
    Refuses node (.error (.ofDefinition trouble) : Except Failure α) := by
  refine ofDefinition fun value member unwritable => ?_
  obtain rfl := shown value member
  exact Tree.holdsLongNumeral_of_unwritable value unwritable

end Refuses

/-- A reader that blames a value for nothing else, whatever the value is. -/
def Fair (read : Tree → Except Failure α) : Prop :=
  ∀ node, Refuses node (read node)

section

variable {node : Tree} {name : String} {read : Tree → Except Failure α}

theorem present?_refuses : Refuses node (present? node name) := by
  unfold present?
  split
  next entries => split <;> exact .ok _
  next => exact .ofDefinition_self (by simp [DefinitionTrouble.shownValues])

theorem required_refuses : Refuses node (required node name) := by
  unfold required
  split
  next value found => exact .ok value
  next lacking =>
    obtain ⟨entries, rfl⟩ : ∃ entries, node = .map entries := by
      cases Grammar.present?_none.mp lacking with
      | missing | null => exact ⟨_, rfl⟩
    exact .ofDefinition_self (by simp [DefinitionTrouble.shownValues, entriesOf])
  next failure failed =>
    intro cause same
    cases same
    exact present?_refuses failure failed

theorem Fair.mandatory (fair : Fair read) {next : α → Except Failure β}
    (onward : ∀ value, Refuses node (next value)) :
    Refuses node (required node name >>= fun part => read part >>= next) := by
  refine required_refuses.bind fun part found => ?_
  have holds : node.Holds part := (Grammar.required_ok.mp found).holds
  exact ((fair part).within holds).bind fun value _ => onward value

theorem Fair.withDefault (fair : Fair read) {fallback : α} :
    Refuses node (withDefault node name read fallback) := by
  unfold Field.withDefault
  split
  next part found => exact (fair part).within (Grammar.present?_some.mp found).holds
  next =>
    split
    next => exact .ok fallback
    next unwritable =>
      exact .numeral (Tree.holdsLongNumeral_of_unwritable node (by simpa using unwritable))
  next failure failed =>
    intro cause same
    cases same
    exact present?_refuses failure failed

theorem word_fair : Fair word := by
  intro node
  unfold word
  split
  next written => exact .ok written
  next => exact .ofDefinition_self (by simp [DefinitionTrouble.shownValues])

theorem text_fair : Fair text := by
  intro node
  unfold text
  split
  next written => exact .ok written
  next number =>
    split
    next => exact .ok _
    next unwritable => exact .numeral ⟨_, .self _, by simpa [Tree.IsLongNumeral] using unwritable⟩
  next => exact .ok _
  next => exact .ok _
  next => exact .ofDefinition_self (by simp [DefinitionTrouble.shownValues])

theorem size_fair : Fair size := by
  intro node
  unfold size
  split
  next written =>
    split
    next number counted =>
      split
      next => exact .ok _
      next long =>
        exact .numeral ⟨_, .self _, by rw [counted]; rfl, Nat.lt_of_not_le long⟩
    next => exact .ofDefinition_self (by simp [DefinitionTrouble.shownValues])
  next number =>
    split
    next => exact .ofDefinition_self (by simp [DefinitionTrouble.shownValues])
    next => exact .ok _
  next => exact .ofDefinition_self (by simp [DefinitionTrouble.shownValues])

theorem flag_fair : Fair flag := by
  intro node
  unfold flag
  split
  next value => exact .ok value
  next written =>
    split
    next => exact .ok _
    next => exact .ofDefinition_self (by simp [DefinitionTrouble.shownValues])
  next => exact .ofDefinition_self (by simp [DefinitionTrouble.shownValues])

theorem texts_refuses {items : List Tree} (held : ∀ item ∈ items, node.Holds item) :
    Refuses node (texts items) := by
  induction items with
  | nil => exact .ok _
  | cons item rest ih =>
      refine ((text_fair item).within (held item List.mem_cons_self)).bind fun first _ => ?_
      exact (ih fun other member => held other (List.mem_cons_of_mem _ member)).bind
        fun others _ => .ok _

theorem steps_fair : Fair steps := by
  intro node
  unfold steps
  split
  next items => exact texts_refuses fun item member => .item member (.self _)
  next => exact .ofDefinition_self (by simp [DefinitionTrouble.shownValues])

theorem tag_fair : Fair tag := by
  intro node
  refine required_refuses.bind fun part found => ?_
  exact (word_fair part).within (Grammar.required_ok.mp found).holds

theorem unknownTag_refuses {tag : String} :
    Refuses node (.error (.ofDefinition (.unknownTag tag)) : Except Failure α) :=
  .ofDefinition nofun

theorem choice_refuses {ofWord? : String → Option α} {written : String} :
    Refuses node (choice ofWord? written) := by
  unfold choice
  split
  next => exact .ok _
  next => exact unknownTag_refuses

end

end Field

open Kanban.Field

theorem Place.ofTree_fair : Fair Place.ofTree :=
  fun node => (word_fair node).bind fun _ _ => choice_refuses

theorem Source.ofTree_fair : Fair Source.ofTree := by
  intro node
  refine (tag_fair node).bind fun tag _ => ?_
  split
  next => exact .ok _
  next => exact .ok _
  next => exact text_fair.mandatory fun name => .ok _
  next => exact unknownTag_refuses

theorem Target.ofTree_fair : Fair Target.ofTree := by
  intro node
  refine text_fair.mandatory fun column => ?_
  exact Place.ofTree_fair.withDefault.bind fun place _ => .ok _

theorem CardInfo.ofTree_fair : Fair CardInfo.ofTree := by
  intro node
  refine text_fair.mandatory fun name => ?_
  exact text_fair.withDefault.bind fun description _ => .ok _

theorem Action.ofTree_fair : Fair Action.ofTree := by
  intro params
  refine (tag_fair params).bind fun tag _ => ?_
  split
  next => exact .ok _
  next => exact Target.ofTree_fair.mandatory fun target => .ok _
  next => exact Target.ofTree_fair.mandatory fun target => .ok _
  next =>
    refine Target.ofTree_fair.mandatory fun target => ?_
    exact CardInfo.ofTree_fair.mandatory fun card => .ok _
  next => exact unknownTag_refuses

namespace Body

theorem takeOfTree_fair : Fair takeOfTree := by
  intro params
  refine Source.ofTree_fair.withDefault.bind fun source _ => ?_
  refine Place.ofTree_fair.withDefault.bind fun place _ => ?_
  exact size_fair.withDefault.bind fun size _ => .ok _

theorem orderOfTree_fair : Fair orderOfTree := by
  intro params
  refine Source.ofTree_fair.withDefault.bind fun source _ => ?_
  refine (tag_fair params).bind fun tag _ => ?_
  exact choice_refuses.bind fun kind _ => .ok _

theorem filterOfTree_fair (caseSensitive : Bool) :
    Fair fun params => filterOfTree params caseSensitive := by
  intro params
  refine word_fair.withDefault.bind fun by_ _ => ?_
  refine choice_refuses.bind fun criterion _ => ?_
  refine text_fair.mandatory fun value => ?_
  exact flag_fair.withDefault.bind fun sensitive _ => .ok _

theorem params_refuses {node : Tree} {read : Tree → Except Failure α} (fair : Fair read) :
    Refuses node (Field.withDefault node "params" .ok (.map []) >>= read) := by
  have same : Fair (Except.ok : Tree → Except Failure Tree) := fun _ => .ok _
  refine same.withDefault.bind fun params found => ?_
  rcases (Grammar.withDefault_ok fun _ _ => ⟨Except.ok.inj, congrArg Except.ok⟩).mp found with
    ⟨part, has, rfl⟩ | _
  · exact (fair part).within has.holds
  · exact (fair (.map [])).of_empty

theorem ofTree_fair (caseSensitive : Bool) : Fair fun node => ofTree node caseSensitive := by
  intro node
  refine (tag_fair node).bind fun type _ => ?_
  dsimp only
  split
  next => exact params_refuses takeOfTree_fair
  next => exact params_refuses orderOfTree_fair
  next => exact params_refuses (filterOfTree_fair caseSensitive)
  next =>
    have acts : Fair fun params => Action.ofTree params >>= fun action => .ok (Body.act action) :=
      fun params => (Action.ofTree_fair params).bind fun action _ => .ok _
    exact params_refuses acts
  next => exact steps_fair.mandatory fun steps => .ok _
  next => exact steps_fair.mandatory fun steps => .ok _
  next => exact unknownTag_refuses

end Body

end Kanban
