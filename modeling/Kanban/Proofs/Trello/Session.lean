import Kanban.Proofs.Service.Memory.Twins
import Kanban.Proofs.Trello.ReadBack

/-!
A session behind which a board in memory stands.  It reads from every request the call that it is
for, makes this call to the board, and sends the data of what the board answers.  A client that
talks to it has the answers of the board, but for closed boards and the signs of zeros.
-/
namespace Kanban

namespace Service.Call

def data : Call α → α → Tree
  | boards, given => .list (given.map Board.toTree)
  | columns _, given => .list (given.map Column.toTree)
  | cards _, given | cardsIn _, given => .list (given.map Card.toTree)
  | labels _, given => .list (given.map Label.toTree)
  | create _, given | move .., given => given.toTree

def Sound (known : List Tree) : Call α → α → Prop
  | boards, given => ∀ board ∈ given, board.id.IsIdentifier
  | columns _, given => ∀ column ∈ given, column.id.IsIdentifier
  | cards _, given | cardsIn _, given => ∀ card ∈ given, card.Typed ∧ card.id ∈ known
  | labels _, given => ∀ label ∈ given, label.name.isText
  | create _, given | move .., given => given.Typed

theorem Sound.mono {known later : List Tree} {call : Call α} {given : α}
    (sound : call.Sound known given) (more : known ⊆ later) : call.Sound later given := by
  cases call with
  | cards | cardsIn => exact fun card member => ⟨(sound card member).1, more (sound card member).2⟩
  | boards | columns | labels | create | move => exact sound

theorem Agree.sendable {known : List Tree} {call made : Call α} (agree : call.Agree known made) :
    call.recorded.IsSendable := by
  have position_given (place : Landing Float) : Executor.position place ≠ .null := by
    cases place <;> nofun
  have identifier_text {id : Tree} (identifier : id.IsIdentifier) : id.isText := by
    obtain ⟨_, rfl, _⟩ := identifier
    rfl
  have text_given {value : Tree} (text : value.isText) : value ≠ .null := by
    rintro rfl
    cases text
  cases agree with
  | boards => trivial
  | columns identifier | cards identifier | cardsIn identifier | labels identifier =>
      exact identifier_text identifier
  | create column name description source =>
      refine ⟨text_given (identifier_text column), text_given name, position_given _, description,
        source.imp_right ?_⟩
      rintro ⟨s, rfl, occupied⟩
      simpa [Tree.isGiven] using occupied
  | move card _ column =>
      exact ⟨identifier_text card, text_given (identifier_text column), position_given _⟩

end Service.Call

namespace Memory

def dataFor (memory : Memory) : BoardCall → Except Failure Tree
  | .boards => told .boards
  | .columns board => told (.columns board)
  | .cards board => told (.cards board)
  | .cardsIn column => told (.cardsIn column)
  | .labels board => told (.labels board)
  | .create draft => told (.create draft)
  | .move card column position => told (.move card column position)
where
  told {α : Type} (call : Service.Call α) : Except Failure Tree :=
    (service.answer call memory).result.map call.data

theorem dataFor_recorded (memory : Memory) (call : Service.Call α) :
    memory.dataFor call.recorded = (service.answer call memory).result.map call.data := by
  cases call <;> rfl

theorem Typed.sound {memory : Memory} (typed : memory.Typed) {call : Service.Call α} {value : α}
    (drafts : ∀ draft, call.recorded = .create draft →
      draft.name.isText ∧ draft.description.isText)
    (answered : (service.answer call memory).result = .ok value) :
    call.Sound memory.ids value := by
  cases call with
  | boards =>
      cases answered
      exact typed.boards
  | columns board =>
      cases answered
      intro column member
      obtain ⟨row, present, inside⟩ := mem_rowOf member
      exact typed.columns row present column inside
  | cards | cardsIn =>
      cases answered
      intro card member
      have present := (List.mem_filter.mp member).1
      exact ⟨typed.cards card present, List.mem_map_of_mem present⟩
  | labels board =>
      cases answered
      intro label member
      obtain ⟨row, present, inside⟩ := mem_rowOf member
      exact typed.labels row present label inside
  | create draft =>
      have creating := create_creating draft memory
      change (create draft memory).result = _ at answered
      generalize create draft memory = reply at creating answered
      cases creating with
      | down | misplaced => cases answered
      | appended =>
          cases answered
          obtain ⟨name, description⟩ := drafts draft rfl
          exact ⟨newId_isIdentifier _, name, description⟩
  | move id column position =>
      have moving := move_moving id column position memory
      change (move id column position memory).result = _ at answered
      generalize move id column position memory = reply at moving answered
      cases moving with
      | down | unknown | misplaced => cases answered
      | replaced _ found =>
          cases answered
          have original := typed.cards _ (List.mem_of_find?_eq_some found)
          exact ⟨original.id, original.name, original.description⟩

end Memory

namespace Trello

/-- How a text shows the data is left open. -/
def session (client : Trello) (display : Tree → String) : Transport Memory where
  send request memory :=
    match client.readBack? request with
    | some call =>
        match memory.dataFor call with
        | .ok data => (.answered { text := display data, data := .ok data }, memory.after call)
        | .error _ => (.refused "no data", memory.after call)
    | none => (.refused "no call", memory)

theorem readAll_list {read : Tree → Except Misuse α} {write : α → Tree} {found : α → α}
    {items : List α} (reads : ∀ item ∈ items, read (write item) = .ok (found item)) :
    readAll read (.list (items.map write)) = .ok (items.map found) :=
  Entity.all_written reads

theorem readAll_plain {read : Tree → Except Misuse α} {write : α → Tree} {items : List α}
    (reads : ∀ item ∈ items, read (write item) = .ok item) :
    readAll read (.list (items.map write)) = .ok items := by
  have found : ∀ item ∈ items, read (write item) = .ok (id item) := reads
  simpa using readAll_list found

theorem reading_data {known : List Tree} {call : Service.Call α} {given : α}
    (sound : call.Sound known given) : reading call (call.data given) = .ok (call.kept given) := by
  cases call with
  | boards =>
      have all := readAll_plain fun board (_ : board ∈ given) => Board.ofTree_toTree board
      simp only [reading, readBoards, Service.Call.data, all]
      rfl
  | columns board => exact readAll_plain fun column _ => Column.ofTree_toTree column
  | cards | cardsIn =>
      exact readAll_list fun card member => Card.ofTree_toTree (sound card member).1.description
  | labels board => exact readAll_plain fun label member => Label.ofTree_toTree (sound label member)
  | create | move => exact Card.ofTree_toTree sound.description

theorem answer_session (client : Trello) (display : Tree → String) {memory : Memory}
    {call : Service.Call α} {value : α} {known : List Tree} (sendable : call.recorded.IsSendable)
    (answered : (Memory.service.answer call memory).result = .ok value)
    (sound : call.Sound known value) :
    (client.service (client.session display)).answer call memory =
      ⟨.ok (call.kept value), memory.after call.recorded,
        notes call.recorded ++ [.request (client.requestOf call.recorded)]⟩ := by
  have sent : (client.session display).send (client.requestOf call.recorded) memory =
      (.answered { text := display (call.data value), data := .ok (call.data value) },
        memory.after call.recorded) := by
    simp only [session, readBack?_requestOf client sendable, Memory.dataFor_recorded, answered]
    rfl
  have understood :
      (reading call (call.data value)).mapError Failure.misuse = .ok (call.kept value) := by
    rw [reading_data sound]
    rfl
  rw [answer_eq, sent, ← understood]
  rfl

end Trello

end Kanban
