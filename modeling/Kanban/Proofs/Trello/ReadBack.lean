import Kanban.Proofs.Entity.Written
import Kanban.Proofs.Trello.Request
import Mathlib.Data.List.Infix

namespace Kanban

/-! What stands between the front and the back of a text. -/

def between? (front back text : String) : Option String := do
  let rest ← front.toList.isPrefixOf? text.toList
  let inside ← back.toList.isSuffixOf? rest
  return String.ofList inside

theorem between?_append (front inside back : String) :
    between? front back (front ++ inside ++ back) = some inside := by
  have rest : front.toList.isPrefixOf? (front ++ inside ++ back).toList =
      some (inside.toList ++ back.toList) := by
    rw [List.isPrefixOf?_eq_some_iff_append_eq]
    simp
  have found : back.toList.isSuffixOf? (inside.toList ++ back.toList) = some inside.toList :=
    List.isSuffixOf?_eq_some_iff_append_eq.mpr rfl
  rw [between?, rest, Option.bind_eq_bind, Option.bind_some, found]
  simp

theorem between?_some {front back text inside : String}
    (found : between? front back text = some inside) :
    front.toList <+: text.toList ∧ back.toList <:+ text.toList := by
  simp only [between?, Option.bind_eq_bind, Option.bind_eq_some_iff] at found
  obtain ⟨rest, front, within, back, _⟩ := found
  have first := List.isPrefixOf?_eq_some_iff_append_eq.mp front
  have last := List.isSuffixOf?_eq_some_iff_append_eq.mp back
  exact ⟨⟨rest, first⟩, first ▸ ⟨_, by rw [← last, List.append_assoc]⟩⟩

/-- Of two fronts, neither of which starts with the other, no text has both; and so for backs. -/
theorem between?_other {front other back tail : String} (inside : String)
    (apart : (¬ front.toList <+: other.toList ∧ ¬ other.toList <+: front.toList) ∨
      (¬ back.toList <:+ tail.toList ∧ ¬ tail.toList <:+ back.toList)) :
    between? front back (other ++ inside ++ tail) = none := by
  rw [Option.eq_none_iff_forall_ne_some]
  intro found same
  obtain ⟨starts, ends⟩ := between?_some same
  simp only [String.toList_append] at starts ends
  rcases apart with ⟨before, behind⟩ | ⟨before, behind⟩
  · have others : other.toList <+: other.toList ++ inside.toList ++ tail.toList :=
      (List.prefix_append ..).trans (List.prefix_append ..)
    exact (List.prefix_or_prefix_of_prefix starts others).elim before behind
  · exact (List.suffix_or_suffix_of_suffix ends (List.suffix_append ..)).elim before behind

namespace Trello

/-- The calls that read something of a board or a column, by what surrounds its identifier. -/
def reads : List (String × String × (Tree → BoardCall)) :=
  [("/1/boards/", "/lists", .columns), ("/1/boards/", "/cards", .cards),
    ("/1/lists/", "/cards", .cardsIn), ("/1/boards/", "/labels", .labels)]

def readGet? (path : String) : Option BoardCall :=
  let found := reads.findSome? fun (front, back, call) =>
    (between? front back path).map fun id => call (.text id)
  found.or (if path = "/1/members/me/boards" then some .boards else none)

def readPost? (parameters : List (String × Tree)) (path : String) : Option BoardCall :=
  if path = "/1/cards" then do
    let column ← parameters.lookup "idList"
    let name ← parameters.lookup "name"
    let position ← parameters.lookup "pos"
    let description := (parameters.lookup "desc").getD (.text "")
    let source := (parameters.lookup "idCardSource").getD .null
    return .create { column, name, position, description, source }
  else
    none

def readPut? (parameters : List (String × Tree)) (path : String) : Option BoardCall := do
  let card ← between? "/1/cards/" "" path
  let column ← parameters.lookup "idList"
  let position ← parameters.lookup "pos"
  return .move (.text card) column position

def readBack? (client : Trello) (request : HttpRequest) : Option BoardCall := do
  let path ← between? client.base "" request.url
  match request.method with
  | "GET" => readGet? path
  | "POST" => readPost? request.parameters path
  | "PUT" => readPut? request.parameters path
  | _ => none

end Trello

/-- Whether a request can say what a call says: identifiers in its path are texts, a parameter that
has to be there is not null, and one that is left out for being empty is what it would be anyway. -/
def BoardCall.IsSendable : BoardCall → Prop
  | .boards => True
  | .columns id | .cards id | .cardsIn id | .labels id => id.isText
  | .create draft =>
      draft.column ≠ .null ∧ draft.name ≠ .null ∧ draft.position ≠ .null ∧
        draft.description.isText ∧ (draft.source = .null ∨ draft.source.isGiven)
  | .move card column position => card.isText ∧ column ≠ .null ∧ position ≠ .null

namespace Trello

theorem isNull_eq_false {value : Tree} (given : value ≠ .null) : isNull value = false := by
  cases value with
  | null => exact absurd rfl given
  | _ => rfl

theorem lookup_request (client : Trello) (method path : String)
    (parameters : List (String × Tree)) {name : String} (key : name ≠ "key")
    (token : name ≠ "token") :
    (client.request method path parameters).parameters.lookup name =
      (parameters.filter fun parameter => !isNull parameter.2).lookup name := by
  simp [request, List.lookup_cons, beq_false_of_ne key, beq_false_of_ne token]

theorem readBack?_request (client : Trello) (method path : String)
    (parameters : List (String × Tree)) :
    client.readBack? (client.request method path parameters) =
      match method with
      | "GET" => readGet? path
      | "POST" => readPost? (client.request method path parameters).parameters path
      | "PUT" => readPut? (client.request method path parameters).parameters path
      | _ => none := by
  have found : between? client.base "" (client.base ++ path) = some path := by
    simpa using between?_append client.base path ""
  simp only [readBack?, request, found]
  rfl

theorem readPost?_draft (client : Trello) {draft : Draft}
    (sendable : BoardCall.IsSendable (.create draft)) :
    readPost? (client.request "POST" "/1/cards" (draftParameters draft)).parameters "/1/cards" =
      some (.create draft) := by
  obtain ⟨target, title, place, description, source⟩ := draft
  dsimp only [BoardCall.IsSendable] at sendable
  obtain ⟨column, name, position, described, copied⟩ := sendable
  have told {value : Tree} (given : value.isGiven = true) : isNull value = false := by
    cases value with
    | null => cases given
    | _ => rfl
  have empty (without : description.isGiven = false) : .text "" = description := by
    rw [← Tree.orElse_text described, Tree.orElse, if_neg (by simp [without])]
  have alone (without : source.isGiven = false) : .null = source := by
    rcases copied with null | given
    · exact null.symm
    · cases without.symm.trans given
  cases describes : description.isGiven <;> cases copies : source.isGiven <;>
    simp [readPost?, lookup_request, draftParameters, List.lookup_cons, isNull_eq_false column,
      isNull_eq_false name, isNull_eq_false position, *]

/-- Every call that can be sent is told in full by its request. -/
theorem readBack?_requestOf (client : Trello) {call : BoardCall} (sendable : call.IsSendable) :
    client.readBack? (client.requestOf call) = some call := by
  unfold requestOf
  rw [readBack?_request]
  cases call with
  | boards => rfl
  | columns board =>
      cases board with
      | text id =>
          change readGet? ("/1/boards/" ++ id ++ "/lists") = _
          simp [readGet?, reads, between?_append]
      | _ => cases sendable
  | cards board =>
      cases board with
      | text id =>
          change readGet? ("/1/boards/" ++ id ++ "/cards") = _
          have lists : between? "/1/boards/" "/lists" ("/1/boards/" ++ id ++ "/cards") = none :=
            between?_other id (.inr (by decide))
          simp [readGet?, reads, lists, between?_append]
      | _ => cases sendable
  | cardsIn column =>
      cases column with
      | text id =>
          change readGet? ("/1/lists/" ++ id ++ "/cards") = _
          have boards (back : String) :
              between? "/1/boards/" back ("/1/lists/" ++ id ++ "/cards") = none :=
            between?_other id (.inl (by decide))
          simp [readGet?, reads, boards, between?_append]
      | _ => cases sendable
  | labels board =>
      cases board with
      | text id =>
          change readGet? ("/1/boards/" ++ id ++ "/labels") = _
          have other (front : String) {back : String}
              (apart : ¬ back.toList <:+ "/labels".toList ∧ ¬ "/labels".toList <:+ back.toList) :
              between? front back ("/1/boards/" ++ id ++ "/labels") = none :=
            between?_other id (.inr apart)
          simp [readGet?, reads, other _ (by decide : ¬ "/lists".toList <:+ _ ∧ _),
            other _ (by decide : ¬ "/cards".toList <:+ _ ∧ _), between?_append]
      | _ => cases sendable
  | create draft =>
      exact readPost?_draft client sendable
  | move card column position =>
      obtain ⟨identified, column, position⟩ := sendable
      cases card with
      | text id =>
        have path : between? "/1/cards/" "" ("/1/cards/" ++ id) = some id := by
          simpa using between?_append "/1/cards/" id ""
        change readPut? (client.request ..).parameters ("/1/cards/" ++ id) = _
        simp [readPut?, path, lookup_request, endpoint, List.lookup_cons, isNull_eq_false column,
          isNull_eq_false position]
      | _ => cases identified

end Trello

end Kanban
