import Kanban.Proofs.Service.Calls
import Kanban.Proofs.Trello.Session

/-!
Two runs side by side: one over a client whose session has a board in memory behind it, and one over
such a board itself.  They go on in step: whenever one makes a call, the other makes one that agrees
with it, and the request of the first tells the call of the second.
-/
namespace Kanban

def Event.request? : Event → Option HttpRequest
  | .request sent => some sent
  | _ => none

def Event.requests (events : List Event) : List HttpRequest :=
  events.filterMap request?

@[simp] theorem Event.requests_append (events more : List Event) :
    requests (events ++ more) = requests events ++ requests more :=
  List.filterMap_append

theorem Event.filterMap_logs {find : Event → Option α} {events : List Event}
    (passes : ∀ level message, find (.log level message) = none)
    (logs : ∀ event ∈ events, event.isLog) : events.filterMap find = [] := by
  refine List.filterMap_eq_nil_iff.mpr fun event member => ?_
  cases event with
  | log level message => exact passes level message
  | call | request => cases logs _ member

theorem Event.calls_of_logs {events : List Event} (logs : ∀ event ∈ events, event.isLog) :
    calls events = [] :=
  filterMap_logs (fun _ _ => rfl) logs

theorem Event.requests_of_logs {events : List Event} (logs : ∀ event ∈ events, event.isLog) :
    requests events = [] :=
  filterMap_logs (fun _ _ => rfl) logs

/-- Whether there is a request for every call and no other one, in the same order, and the calls can
be read back from the requests up to the signs of zeros. -/
def Trello.Tells (client : Trello) (requests : List HttpRequest) (calls : List BoardCall) : Prop :=
  requests.map (fun request => (client.readBack? request).map BoardCall.unsigned) =
    calls.map fun call => some call.unsigned

theorem Trello.Tells.snoc {client : Trello} {requests : List HttpRequest} {calls : List BoardCall}
    {request : HttpRequest} {call made : BoardCall} (tells : client.Tells requests calls)
    (read : client.readBack? request = some call) (same : call.unsigned = made.unsigned) :
    client.Tells (requests ++ [request]) (calls ++ [made]) := by
  unfold Tells at tells ⊢
  rw [List.map_append, List.map_append, tells]
  simp [read, same]

structure World.Mirrors (client : Trello) (world twin : World Memory) : Prop where
  boards : world.service.Twins twin.service
  draws : world.draws = twin.draws
  told : client.Tells (Event.requests world.trace) (Event.calls twin.trace)

namespace Run

/-- Ends of the two runs: the same failure, or values that are related. -/
inductive EndsAlike (related : α → β → Prop) : Except Failure α → Except Failure β → Prop where
  | ok {value : α} {other : β} : related value other → EndsAlike related (.ok value) (.ok other)
  | error (failure : Failure) : EndsAlike related (.error failure) (.error failure)

/-- What is related may depend on the identifiers of cards that are known; these become more. -/
def Mirrors (client : Trello) (known : List Tree) (related : List Tree → α → β → Prop)
    (part : Run Memory α) (other : Run Memory β) : Prop :=
  ∀ world twin, world.Mirrors client twin → known ⊆ twin.service.ids →
    EndsAlike (related (other twin).2.service.ids) (part world).1 (other twin).1 ∧
      (part world).2.Mirrors client (other twin).2 ∧
      twin.service.ids ⊆ (other twin).2.service.ids

namespace Mirrors

variable {client : Trello} {known : List Tree}

theorem pure {related : List Tree → α → β → Prop} {value : α} {other : β}
    (holds : ∀ later, known ⊆ later → related later value other) :
    Mirrors client known related (Pure.pure value) (Pure.pure other) :=
  fun _ twin mirrors within => ⟨.ok (holds twin.service.ids within), mirrors, List.Subset.refl _⟩

theorem fail {related : List Tree → α → β → Prop} (failure : Failure) :
    Mirrors client known related (Run.fail failure) (Run.fail failure) :=
  fun _ _ mirrors _ => ⟨.error failure, mirrors, List.Subset.refl _⟩

theorem bind {related : List Tree → α → β → Prop} {after : List Tree → γ → δ → Prop}
    {first : Run Memory α} {other : Run Memory β} {next : α → Run Memory γ}
    {follow : β → Run Memory δ} (mirrors : Mirrors client known related first other)
    (onward : ∀ later value given, known ⊆ later → related later value given →
      Mirrors client later after (next value) (follow given)) :
    Mirrors client known after (first >>= next) (other >>= follow) := by
  intro world twin same within
  obtain ⟨ended, between, grown⟩ := mirrors world twin same within
  rw [bind_apply, bind_apply]
  generalize first world = left at ended between ⊢
  generalize other twin = right at ended between grown ⊢
  obtain ⟨result, later⟩ := left
  obtain ⟨given, laterTwin⟩ := right
  dsimp only at ended between grown ⊢
  cases ended with
  | error failure => exact ⟨.error failure, between, grown⟩
  | ok holds =>
      obtain ⟨done, last, more⟩ :=
        onward _ _ _ (List.Subset.trans within grown) holds later laterTwin between
          (List.Subset.refl _)
      exact ⟨done, last, List.Subset.trans grown more⟩

theorem imp {related after : List Tree → α → β → Prop} {part : Run Memory α} {other : Run Memory β}
    (mirrors : Mirrors client known related part other)
    (holds : ∀ later value given, related later value given → after later value given) :
    Mirrors client known after part other := by
  intro world twin same within
  obtain ⟨ended, rest⟩ := mirrors world twin same within
  refine ⟨?_, rest⟩
  generalize (part world).1 = result at ended ⊢
  generalize (other twin).1 = given at ended ⊢
  cases ended with
  | ok related => exact .ok (holds _ _ _ related)
  | error failure => exact .error failure

theorem emit {events others : List Event} (logs : ∀ event ∈ events, event.isLog)
    (lines : ∀ event ∈ others, event.isLog) :
    Mirrors client known (fun _ _ _ => True) (Run.emit events) (Run.emit others) := by
  intro world twin mirrors _
  refine ⟨.ok trivial, ⟨mirrors.boards, mirrors.draws, ?_⟩, List.Subset.refl _⟩
  simp only [emit_apply, Event.requests_append, Event.requests_of_logs logs, Event.calls_append,
    Event.calls_of_logs lines, List.append_nil]
  exact mirrors.told

theorem info (message other : String) :
    Mirrors client known (fun _ _ _ => True) (Run.info message) (Run.info other) :=
  .emit (by simp [Event.info, Event.isLog]) (by simp [Event.info, Event.isLog])

theorem debug (message other : String) :
    Mirrors client known (fun _ _ _ => True) (Run.debug message) (Run.debug other) :=
  .emit (by simp [Event.debug, Event.isLog]) (by simp [Event.debug, Event.isLog])

theorem draw {related : List Tree → α → β → Prop} {take : Draws → α × Draws}
    {other : Draws → β × Draws}
    (drawn : ∀ draws later, known ⊆ later →
      related later (take draws).1 (other draws).1 ∧ (take draws).2 = (other draws).2) :
    Mirrors client known related (Run.draw take) (Run.draw other) := by
  intro world twin mirrors within
  obtain ⟨holds, rest⟩ := drawn twin.draws twin.service.ids within
  simp only [draw_apply, mirrors.draws]
  exact ⟨.ok holds, ⟨mirrors.boards, rest, mirrors.told⟩, List.Subset.refl _⟩

theorem drawSame (take : Draws → α × Draws) :
    Mirrors client known (fun _ value other => value = other) (Run.draw take) (Run.draw take) :=
  .draw fun _ _ _ => ⟨rfl, rfl⟩

theorem ofExcept {related : List Tree → α → β → Prop} {wrap : ε → Failure} {result : Except ε α}
    {other : Except ε β}
    (ends : ∀ later, known ⊆ later →
      EndsAlike (related later) (result.mapError wrap) (other.mapError wrap)) :
    Mirrors client known related (Run.ofExcept wrap result) (Run.ofExcept wrap other) := by
  intro world twin mirrors within
  have ended := ends twin.service.ids within
  cases result with
  | ok value =>
      cases other with
      | ok given => exact ⟨ended, mirrors, List.Subset.refl _⟩
      | error cause => cases ended
  | error cause =>
      cases other with
      | ok given => cases ended
      | error other => exact ⟨ended, mirrors, List.Subset.refl _⟩

theorem ask (display : Tree → String) {call made : Service.Call α}
    (agree : call.Agree known made) :
    Mirrors client known
      (fun later value given => value = made.kept given ∧ made.Sound later given)
      (Run.ask ((client.service (client.session display)).answer call))
      (Run.ask (Memory.service.answer made)) := by
  intro world twin mirrors within
  have agree := agree.mono within
  obtain ⟨value, given, answered, replied, same, after⟩ := mirrors.boards.answer agree
  have sound := mirrors.boards.typed.sound (fun _ made => agree.drafts (.inr made)) replied
  have asked := Trello.answer_session client display agree.sendable answered
    (mirrors.boards.first_typed.sound (fun _ made => agree.drafts (.inl made)) answered)
  obtain ⟨left, recorded⟩ := Memory.answer_state made twin.service
  have grown := twin.service.ids_after made.recorded
  simp only [ask_apply, asked, replied, left, recorded]
  refine ⟨.ok ⟨same, sound.mono grown⟩, ⟨after, mirrors.draws, ?_⟩, grown⟩
  simp only [Event.requests_append, Event.calls_append,
    Event.requests_of_logs (Trello.notes_are_logs _)]
  exact mirrors.told.snoc (client.readBack?_requestOf agree.sendable) agree.recorded

theorem create (display : Tree → String) {column name description source : Tree}
    {place spot : Landing Float} (identified : column.IsIdentifier) (named : name.isText)
    (described : description.isText) (copied : source = .null ∨ source.IsIdentifier)
    (same : place.unsigned = spot.unsigned) :
    Mirrors client known (fun _ _ _ => True)
      (Run.ask ((client.service (client.session display)).create
        ⟨column, name, Executor.position place, description, source⟩))
      (Run.ask (Memory.service.create
        ⟨column, name, Executor.position spot, description, source⟩)) :=
  Mirrors.imp (.ask display (.create identified named described copied same))
    fun _ _ _ _ => trivial

theorem move (display : Tree → String) {card column : Tree} {place spot : Landing Float}
    (identifier : card.IsIdentifier) (present : card ∈ known) (identified : column.IsIdentifier)
    (same : place.unsigned = spot.unsigned) :
    Mirrors client known (fun _ _ _ => True)
      (Run.ask ((client.service (client.session display)).move card column
        (Executor.position place)))
      (Run.ask (Memory.service.move card column (Executor.position spot))) :=
  Mirrors.imp (.ask display (.move identifier present identified same)) fun _ _ _ _ => trivial

end Mirrors

end Run

end Kanban
