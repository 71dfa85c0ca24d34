import Kanban.Proofs.Service.Memory.Identity
import Kanban.Proofs.Service.Memory.Named
import Kanban.Proofs.Service.Memory.Unsigned

namespace Kanban

def Tree.IsIdentifier (value : Tree) : Prop :=
  ∃ s, value = .text s ∧ s ≠ ""

structure Card.Typed (card : Card) : Prop where
  id : card.id.IsIdentifier
  name : card.name.isText
  description : card.description.isText

namespace Memory

/-- Whether identifiers, names and descriptions are texts, and no identifier is empty. -/
structure Typed (memory : Memory) : Prop where
  boards : ∀ board ∈ memory.boards, board.id.IsIdentifier
  columns : ∀ row ∈ memory.columns, ∀ column ∈ row.2, column.id.IsIdentifier
  labels : ∀ row ∈ memory.labels, ∀ label ∈ row.2, label.name.isText
  cards : ∀ card ∈ memory.cards, card.Typed

structure Twins (first second : Memory) : Prop where
  same : first.unsigned = second.unsigned
  typed : second.Typed
  upright : second.failAt = none

variable {memory first second : Memory}

theorem newId_isIdentifier (number : Nat) : (newId number).IsIdentifier := by
  refine ⟨s!"new-{number}", rfl, fun empty => ?_⟩
  have letters := congrArg String.toList empty
  rw [String.toList_append] at letters
  exact List.cons_ne_nil _ _ letters

theorem Typed.of_unsigned (typed : memory.unsigned.Typed) : memory.Typed where
  boards := typed.boards
  columns := typed.columns
  labels := typed.labels
  cards card member := by
    have unsigned := typed.cards card.unsigned (List.mem_map_of_mem member)
    exact ⟨unsigned.id, unsigned.name, unsigned.description⟩

theorem Typed.unsigned (typed : memory.Typed) : memory.unsigned.Typed where
  boards := typed.boards
  columns := typed.columns
  labels := typed.labels
  cards card member := by
    obtain ⟨original, present, rfl⟩ := List.mem_map.mp member
    have plain := typed.cards original present
    exact ⟨plain.id, plain.name, plain.description⟩

theorem Typed.after (typed : memory.Typed) {call : BoardCall}
    (drafts : ∀ draft, call = .create draft → draft.name.isText ∧ draft.description.isText) :
    (memory.after call).Typed := by
  have becoming := memory.after_becoming call
  generalize memory.after call = next at becoming ⊢
  cases becoming with
  | read | refused => exact ⟨typed.boards, typed.columns, typed.labels, typed.cards⟩
  | @appended draft position =>
      refine ⟨typed.boards, typed.columns, typed.labels, fun card member => ?_⟩
      rcases List.mem_append.mp member with old | new
      · exact typed.cards card old
      · rw [List.mem_singleton.mp new]
        obtain ⟨name, description⟩ := drafts draft rfl
        exact ⟨newId_isIdentifier _, name, description⟩
  | @replaced id column position card landed found =>
      refine ⟨typed.boards, typed.columns, typed.labels, fun other member => ?_⟩
      rcases mem_replaceCard member with rfl | old
      · have original := typed.cards card (List.mem_of_find?_eq_some found)
        exact ⟨original.id, original.name, original.description⟩
      · exact typed.cards other old

theorem ids_after (memory : Memory) (call : BoardCall) : memory.ids ⊆ (memory.after call).ids := by
  have becoming := memory.after_becoming call
  generalize memory.after call = next at becoming ⊢
  cases becoming with
  | read | refused => exact List.Subset.refl _
  | appended =>
      rw [ids_appending]
      exact List.subset_append_left _ _
  | @replaced id column position card landed found =>
      have same : (memory.counted.replacing id
          { card with columnId := column, position := landed }).ids = memory.ids :=
        memory.counted.ids_replacing found rfl
      rw [same]
      exact List.Subset.refl _

theorem create_placed (draft : Draft) {place : Landing Float} (upright : memory.failAt = none)
    (placed : draft.position = Executor.position place) :
    let card := memory.drafted draft (memory.landed draft.column place)
    create draft memory =
      ⟨.ok card, memory.counted.appending card, [.call (.create draft)]⟩ := by
  intro card
  have up : memory.isDown = false := by simp [isDown, upright]
  have lands := memory.landing_landed draft.column place
  have creating := create_creating draft memory
  rw [← placed] at lands
  generalize create draft memory = reply at creating ⊢
  cases creating with
  | down down => cases up.symm.trans down
  | misplaced _ refused => cases lands.symm.trans refused
  | appended _ landed =>
      cases lands.symm.trans landed
      rfl

theorem move_placed {id : Tree} {card : Card} (column : Tree) (place : Landing Float)
    (upright : memory.failAt = none) (found : memory.cardNamed? id = some card) :
    let moved := { card with columnId := column, position := memory.landed column place }
    move id column (Executor.position place) memory =
      ⟨.ok moved, memory.counted.replacing id moved,
        [.call (.move id column (Executor.position place))]⟩ := by
  intro moved
  have up : memory.isDown = false := by simp [isDown, upright]
  have lands := memory.landing_landed column place
  have moving := move_moving id column (Executor.position place) memory
  generalize move id column (Executor.position place) memory = reply at moving ⊢
  cases moving with
  | down down => cases up.symm.trans down
  | unknown _ missing => cases found.symm.trans missing
  | misplaced _ _ refused => cases lands.symm.trans refused
  | replaced _ other landed =>
      cases found.symm.trans other
      cases lands.symm.trans landed
      rfl

end Memory

namespace Service.Call

/-- What is kept of an answer when closed boards and the signs of zeros do not count. -/
def kept : Call α → α → α
  | boards, given => given.filter (!·.closed)
  | cards _, given | cardsIn _, given => given.map Card.unsigned
  | create _, given | move .., given => given.unsigned
  | columns _, given | labels _, given => given

/-- Calls that say the same but for the signs of zeros.  What they say is typed: a card that is
moved or copied is named by an identifier, and one that is moved is known. -/
inductive Agree (known : List Tree) : {α : Type} → Call α → Call α → Prop where
  | boards : Agree known .boards .boards
  | columns {board : Tree} : board.IsIdentifier → Agree known (.columns board) (.columns board)
  | cards {board : Tree} : board.IsIdentifier → Agree known (.cards board) (.cards board)
  | cardsIn {column : Tree} : column.IsIdentifier → Agree known (.cardsIn column) (.cardsIn column)
  | labels {board : Tree} : board.IsIdentifier → Agree known (.labels board) (.labels board)
  | create {column name description source : Tree} {place spot : Landing Float} :
      column.IsIdentifier → name.isText → description.isText →
      source = .null ∨ source.IsIdentifier → place.unsigned = spot.unsigned →
      Agree known
        (.create ⟨column, name, Executor.position place, description, source⟩)
        (.create ⟨column, name, Executor.position spot, description, source⟩)
  | move {card column : Tree} {place spot : Landing Float} :
      card.IsIdentifier → card ∈ known → column.IsIdentifier → place.unsigned = spot.unsigned →
      Agree known (.move card column (Executor.position place))
        (.move card column (Executor.position spot))

namespace Agree

variable {known later : List Tree} {call made : Call α}

theorem mono (agree : call.Agree known made) (more : known ⊆ later) : call.Agree later made := by
  cases agree with
  | boards => exact .boards
  | columns board => exact .columns board
  | cards board => exact .cards board
  | cardsIn column => exact .cardsIn column
  | labels board => exact .labels board
  | create column name description source same =>
      exact .create column name description source same
  | move card present column same => exact .move card (more present) column same

theorem recorded (agree : call.Agree known made) :
    call.recorded.unsigned = made.recorded.unsigned := by
  cases agree with
  | boards | columns | cards | cardsIn | labels => rfl
  | create _ _ _ _ same =>
      simp only [Call.recorded, BoardCall.unsigned, Draft.unsigned, Executor.position_unsigned,
        same]
  | move _ _ _ same =>
      simp only [Call.recorded, BoardCall.unsigned, Executor.position_unsigned, same]

theorem drafts (agree : call.Agree known made) {draft : Draft}
    (drafting : call.recorded = .create draft ∨ made.recorded = .create draft) :
    draft.name.isText ∧ draft.description.isText := by
  cases agree with
  | boards | columns | cards | cardsIn | labels | move => simp [Call.recorded] at drafting
  | create _ name description =>
      rcases drafting with ⟨⟨⟩⟩ | ⟨⟨⟩⟩
      · exact ⟨name, description⟩
      · exact ⟨name, description⟩

end Agree

end Service.Call

namespace Memory.Twins

variable {first second : Memory}

theorem first_typed (twins : first.Twins second) : first.Typed :=
  .of_unsigned (twins.same ▸ twins.typed.unsigned)

theorem first_upright (twins : first.Twins second) : first.failAt = none :=
  (congrArg failAt twins.same).trans twins.upright

theorem landed (twins : first.Twins second) (column : Tree) {place spot : Landing Float}
    (same : place.unsigned = spot.unsigned) :
    Number.unsigned (first.landed column place) = Number.unsigned (second.landed column spot) := by
  rw [← landed_unsigned first, ← landed_unsigned second, twins.same, same]

theorem drafted (twins : first.Twins second) {draft made : Draft} {position other : Float}
    (drafts : draft.unsigned = made.unsigned)
    (positions : Number.unsigned position = Number.unsigned other) :
    (first.drafted draft position).unsigned = (second.drafted made other).unsigned := by
  rw [drafted_unsigned, drafted_unsigned, twins.same, drafts, positions]

theorem cardNamed? (twins : first.Twins second) {id : Tree} (known : id ∈ second.ids)
    (identifier : id.IsIdentifier) :
    ∃ card other, first.cardNamed? id = some card ∧ second.cardNamed? id = some other ∧
      card.unsigned = other.unsigned := by
  obtain ⟨present, member, rfl⟩ := List.mem_map.mp known
  obtain ⟨s, text, _⟩ := identifier
  have among : (second.cardNamed? present.id).isSome :=
    List.find?_isSome.mpr ⟨present, member, by simp [text]⟩
  obtain ⟨other, found⟩ := Option.isSome_iff_exists.mp among
  have pictured : (first.cardNamed? present.id).map Card.unsigned = other.unsigned := by
    rw [← cardNamed?_unsigned, twins.same, cardNamed?_unsigned, found]
    rfl
  obtain ⟨card, there, same⟩ := Option.map_eq_some_iff.mp pictured
  exact ⟨card, other, there, found, same⟩

theorem after (twins : first.Twins second) {call made : BoardCall}
    (same : (first.after call).unsigned = (second.after made).unsigned)
    (drafts : ∀ draft, made = .create draft → draft.name.isText ∧ draft.description.isText) :
    (first.after call).Twins (second.after made) where
  same := same
  typed := twins.typed.after drafts
  upright := by
    obtain ⟨_, _, left⟩ := second.after_frame made
    rw [left]
    exact twins.upright

theorem create (twins : first.Twins second) {column name description source : Tree}
    {place spot : Landing Float} (named : name.isText) (described : description.isText)
    (same : place.unsigned = spot.unsigned) :
    let draft : Draft := ⟨column, name, Executor.position place, description, source⟩
    let made : Draft := ⟨column, name, Executor.position spot, description, source⟩
    ∃ card other, (Memory.create draft first).result = .ok card ∧
      (Memory.create made second).result = .ok other ∧ card.unsigned = other.unsigned ∧
      (first.after (.create draft)).Twins (second.after (.create made)) := by
  intro draft made
  have drafts : draft.unsigned = made.unsigned := by
    simp only [draft, made, Draft.unsigned, Executor.position_unsigned, same]
  have cards := twins.drafted drafts (twins.landed column same)
  have created := create_placed draft twins.first_upright rfl
  have copied := create_placed made twins.upright rfl
  refine ⟨_, _, congrArg Reply.result created, congrArg Reply.result copied, cards, ?_⟩
  refine twins.after ?_ ?_
  · rw [after_create, after_create, created, copied]
    simp only [appending_unsigned]
    exact congrArg₂ (fun memory : Memory => memory.counted.appending) twins.same cards
  · rintro _ ⟨⟩
    exact ⟨named, described⟩

theorem move (twins : first.Twins second) {id column : Tree} {place spot : Landing Float}
    (known : id ∈ second.ids) (identifier : id.IsIdentifier)
    (same : place.unsigned = spot.unsigned) :
    ∃ card other, (Memory.move id column (Executor.position place) first).result = .ok card ∧
      (Memory.move id column (Executor.position spot) second).result = .ok other ∧
      card.unsigned = other.unsigned ∧
      (first.after (.move id column (Executor.position place))).Twins
        (second.after (.move id column (Executor.position spot))) := by
  obtain ⟨card, other, there, found, unsigned⟩ := twins.cardNamed? known identifier
  have lands := twins.landed column same
  have cards :
      Card.unsigned { card with columnId := column, position := first.landed column place } =
        Card.unsigned
          { other with columnId := column, position := second.landed column spot } := by
    change Card.mk card.unsigned.id card.unsigned.name card.unsigned.description column
      card.unsigned.labelIds _ card.unsigned.url card.unsigned.shortUrl = _
    rw [unsigned, lands]
    rfl
  have moved := move_placed column place twins.first_upright there
  have copied := move_placed column spot twins.upright found
  refine ⟨_, _, congrArg Reply.result moved, congrArg Reply.result copied, cards, ?_⟩
  refine twins.after ?_ nofun
  rw [after_move, after_move, moved, copied]
  simp only [replacing_unsigned, cards]
  exact congrArg (fun memory : Memory => memory.counted.replacing id _) twins.same

/-- Calls that agree are answered alike by boards that are the same, and leave them the same. -/
theorem answer (twins : first.Twins second) {call made : Service.Call α}
    (agree : call.Agree second.ids made) :
    ∃ value given, (service.answer call first).result = .ok value ∧
      (service.answer made second).result = .ok given ∧ call.kept value = made.kept given ∧
      (first.after call.recorded).Twins (second.after made.recorded) := by
  cases agree with
  | boards =>
      have boards : first.unsigned.boards = second.unsigned.boards :=
        congrArg Memory.boards twins.same
      exact ⟨_, _, rfl, rfl, congrArg (Service.Call.kept .boards) boards, twins⟩
  | @columns board =>
      exact ⟨_, _, rfl, rfl, congrArg (·.columnsOf board) twins.same, twins⟩
  | @cards board =>
      refine ⟨_, _, rfl, rfl, ?_, twins⟩
      change (first.cardsOf board).map _ = (second.cardsOf board).map _
      rw [← cardsOf_unsigned, twins.same, cardsOf_unsigned]
  | @cardsIn column =>
      refine ⟨_, _, rfl, rfl, ?_, twins⟩
      change (first.cardsInColumn column).map _ = (second.cardsInColumn column).map _
      rw [← cardsInColumn_unsigned, twins.same, cardsInColumn_unsigned]
  | @labels board =>
      have labels : first.unsigned.labels = second.unsigned.labels :=
        congrArg Memory.labels twins.same
      exact ⟨_, _, rfl, rfl, congrArg (rowOf · board) labels, twins⟩
  | create _ named described _ same => exact twins.create named described same
  | move identifier known _ same => exact twins.move known identifier same

end Memory.Twins

end Kanban
