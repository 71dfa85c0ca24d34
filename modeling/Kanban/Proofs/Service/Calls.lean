import Kanban.Proofs.Run.Alike

/-!
The calls that a run makes.  Any service can be watched: it does what it did, and it tells each call
instead of what it would tell by itself.  From the calls made one knows the state that the service
is in and which call it refused.
-/
namespace Kanban

def Event.call? : Event → Option BoardCall
  | .call made => some made
  | _ => none

def Event.calls (events : List Event) : List BoardCall :=
  events.filterMap call?

@[simp] theorem Event.calls_nil : calls [] = [] := rfl

@[simp] theorem Event.calls_call (call : BoardCall) (rest : List Event) :
    calls (.call call :: rest) = call :: calls rest := rfl

@[simp] theorem Event.calls_info (message : String) (rest : List Event) :
    calls (.info message :: rest) = calls rest := rfl

@[simp] theorem Event.calls_append (events more : List Event) :
    calls (events ++ more) = calls events ++ calls more :=
  List.filterMap_append

@[simp] theorem Event.calls_map_call (made : List BoardCall) : calls (made.map .call) = made := by
  simp [calls, List.filterMap_map, Function.comp_def, call?]

def Reply.outcome (reply : Reply σ α) : Option Failure × σ :=
  match reply.result with
  | .ok _ => (none, reply.state)
  | .error failure => (some failure, reply.state)

namespace Service

def respond (service : Service σ) (state : σ) : BoardCall → Option Failure × σ
  | .boards => (service.boards state).outcome
  | .columns board => (service.columns board state).outcome
  | .cards board => (service.cards board state).outcome
  | .cardsIn column => (service.cardsIn column state).outcome
  | .labels board => (service.labels board state).outcome
  | .create draft => (service.create draft state).outcome
  | .move card column position => (service.move card column position state).outcome

def replay (service : Service σ) (state : σ) (calls : List BoardCall) : σ :=
  calls.foldl (fun reached call => (service.respond reached call).2) state

/-- No call is refused in the state in which it is made. -/
def Serves (service : Service σ) : σ → List BoardCall → Prop
  | _, [] => True
  | state, call :: rest =>
      (service.respond state call).1 = none ∧ Serves service (service.respond state call).2 rest

/-- The last call is refused, and none before it. -/
def StopsWith (service : Service σ) (failure : Failure) (state : σ) (calls : List BoardCall) :
    Prop :=
  ∃ before last, calls = before ++ [last] ∧ service.Serves state before ∧
    (service.respond (service.replay state before) last).1 = some failure

/-- The service with every call told. -/
def watched (service : Service σ) : Service σ where
  boards state := { service.boards state with events := [.call .boards] }
  columns board state := { service.columns board state with events := [.call (.columns board)] }
  cards board state := { service.cards board state with events := [.call (.cards board)] }
  cardsIn column state := { service.cardsIn column state with events := [.call (.cardsIn column)] }
  labels board state := { service.labels board state with events := [.call (.labels board)] }
  create draft state := { service.create draft state with events := [.call (.create draft)] }
  move card column position state :=
    { service.move card column position state with events := [.call (.move card column position)] }
  rename := service.rename
  describe := service.describe

variable {service : Service σ} {state : σ} {calls more : List BoardCall} {failure : Failure}

@[simp] theorem replay_nil : service.replay state [] = state := rfl

@[simp] theorem replay_cons (call : BoardCall) :
    service.replay state (call :: calls) = service.replay (service.respond state call).2 calls :=
  rfl

@[simp] theorem replay_append :
    service.replay state (calls ++ more) = service.replay (service.replay state calls) more :=
  List.foldl_append

theorem serves_append :
    service.Serves state (calls ++ more) ↔
      service.Serves state calls ∧ service.Serves (service.replay state calls) more := by
  induction calls generalizing state with
  | nil => simp [Serves]
  | cons call rest ih => simp only [List.cons_append, Serves, ih, replay_cons, and_assoc]

theorem StopsWith.behind (served : service.Serves state calls)
    (stops : service.StopsWith failure (service.replay state calls) more) :
    service.StopsWith failure state (calls ++ more) := by
  obtain ⟨before, last, rfl, servedOn, refused⟩ := stops
  refine ⟨calls ++ before, last, (List.append_assoc ..).symm, ?_, ?_⟩
  · exact serves_append.mpr ⟨served, servedOn⟩
  · rwa [replay_append]

theorem Serves.accepts {before after : List BoardCall} {call : BoardCall}
    (served : service.Serves state (before ++ call :: after)) :
    (service.respond (service.replay state before) call).1 = none :=
  (serves_append.mp served).2.1

theorem StopsWith.last {before after : List BoardCall} {call : BoardCall} {other : Failure}
    (stops : service.StopsWith failure state calls) (split : calls = before ++ call :: after)
    (refused : (service.respond (service.replay state before) call).1 = some other) :
    after = [] ∧ failure = other := by
  obtain ⟨earlier, last, rfl, served, stopped⟩ := stops
  rcases List.eq_nil_or_concat after with rfl | ⟨more, final, rfl⟩
  · obtain ⟨rfl, same⟩ := List.append_inj' split rfl
    cases same
    rw [stopped] at refused
    exact ⟨rfl, Option.some.inj refused⟩
  · have behind : earlier ++ [last] = (before ++ call :: more) ++ [final] := by simpa using split
    rw [(List.append_inj' behind rfl).1] at served
    cases served.accepts.symm.trans refused

theorem answer_watched (service : Service σ) (call : Call α) (state : σ) :
    service.watched.answer call state =
      { service.answer call state with events := [.call call.recorded] } := by
  cases call <;> rfl

end Service

theorem Run.Alike.watched {licence : Licence} {service : Service σ} {run : Run σ α}
    {other : Run σ α} (alike : Alike licence service service.watched run other)
    {world twin : World σ} (states : world.service = twin.service)
    (draws : world.draws = twin.draws) :
    (run world).1 = (other twin).1 ∧ (run world).2.service = (other twin).2.service ∧
      (run world).2.draws = (other twin).2.draws := by
  induction alike generalizing world twin with
  | pure | fail | emit => exact ⟨rfl, states, draws⟩
  | draw take => simp [draws, states]
  | ask call => simp [Service.answer_watched, states, draws]
  | @bind α β first other next follow alike alikeNext ihFirst ihNext =>
      have begun := ihFirst states draws
      rw [bind_apply, bind_apply]
      generalize first world = ended at begun
      generalize other twin = ended' at begun
      obtain ⟨result, between⟩ := ended
      obtain ⟨result', between'⟩ := ended'
      obtain ⟨rfl, states, draws⟩ := begun
      cases result with
      | error failure => exact ⟨rfl, states, draws⟩
      | ok value => exact ihNext value states draws

end Kanban
