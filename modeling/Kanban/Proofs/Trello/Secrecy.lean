import Kanban.Proofs.Executor.Entering
import Kanban.Proofs.Service.Operation
import Kanban.Proofs.Trello.Mirrors

/-!
The credentials of a client of Trello are nowhere but in its requests.  Two clients that differ in
nothing else go through every session in the same way, as long as what they are answered does not
depend on the credentials: the same answers, the same failures, the same lines in the log and, but
for the two credentials, the same requests.
-/
namespace Kanban

def HttpRequest.credentialNames : List String :=
  ["key", "token"]

def HttpRequest.withoutCredentials (request : HttpRequest) : HttpRequest :=
  { request with
    parameters := request.parameters.filter fun parameter =>
      !credentialNames.contains parameter.1 }

/-- An event as those see it who do not see the credentials of requests. -/
def Event.withoutCredentials : Event → Event
  | .request sent => .request sent.withoutCredentials
  | other => other

/-- Whether what is answered does not depend on the credentials. -/
def Transport.IsBlind (transport : Transport σ) : Prop :=
  ∀ request other state, request.withoutCredentials = other.withoutCredentials →
    transport.send request state = transport.send other state

theorem Transport.scripted_isBlind : scripted.IsBlind :=
  fun _ _ _ _ => rfl

structure World.Indistinct (world twin : World σ) : Prop where
  service : world.service = twin.service
  draws : world.draws = twin.draws
  trace : world.trace.map Event.withoutCredentials = twin.trace.map Event.withoutCredentials

structure Reply.Indistinct (reply twin : Reply σ α) : Prop where
  result : reply.result = twin.result
  state : reply.state = twin.state
  events : reply.events.map Event.withoutCredentials = twin.events.map Event.withoutCredentials

theorem World.Indistinct.refl (world : World σ) : world.Indistinct world :=
  ⟨rfl, rfl, rfl⟩

structure Service.Indistinct (service twin : Service σ) : Prop where
  answer : ∀ {α : Type} (call : Call α) (state : σ),
    (service.answer call state).Indistinct (twin.answer call state)
  rename : ∀ card name state,
    (service.rename card name state).Indistinct (twin.rename card name state)
  describe : ∀ card description state,
    (service.describe card description state).Indistinct (twin.describe card description state)

namespace Run

def Indistinct (related : α → β → Prop) (part : Run σ α) (other : Run σ β) : Prop :=
  ∀ world twin, world.Indistinct twin →
    EndsAlike related (part world).1 (other twin).1 ∧ (part world).2.Indistinct (other twin).2

namespace Indistinct

theorem pure {related : α → β → Prop} {value : α} {other : β} (holds : related value other) :
    Indistinct related (Pure.pure value : Run σ α) (Pure.pure other) :=
  fun _ _ same => ⟨.ok holds, same⟩

theorem fail {related : α → β → Prop} (failure : Failure) :
    Indistinct related (Run.fail failure : Run σ α) (Run.fail failure) :=
  fun _ _ same => ⟨.error failure, same⟩

theorem bind {related : α → β → Prop} {after : γ → δ → Prop} {first : Run σ α} {other : Run σ β}
    {next : α → Run σ γ} {follow : β → Run σ δ} (begins : Indistinct related first other)
    (onward : ∀ value given, related value given →
      Indistinct after (next value) (follow given)) :
    Indistinct after (first >>= next) (other >>= follow) := by
  intro world twin same
  obtain ⟨ended, between⟩ := begins world twin same
  rw [bind_apply, bind_apply]
  generalize first world = left at ended between ⊢
  generalize other twin = right at ended between ⊢
  obtain ⟨result, later⟩ := left
  obtain ⟨given, laterTwin⟩ := right
  dsimp only at ended between ⊢
  cases ended with
  | error failure => exact ⟨.error failure, between⟩
  | ok holds => exact onward _ _ holds later laterTwin between

theorem returned {part other : Run σ α} (same : Indistinct Eq part other) (give : α → β) :
    Indistinct Eq (do return give (← part)) (do return give (← other)) :=
  same.bind fun _ _ equal => .pure (congrArg give equal)

theorem ask {call other : σ → Reply σ α}
    (replies : ∀ state, (call state).Indistinct (other state)) :
    Indistinct Eq (Run.ask call) (Run.ask other) := by
  intro world twin same
  obtain ⟨result, state, events⟩ := replies world.service
  simp only [ask_apply, ← same.service, ← result]
  refine ⟨?_, state, same.draws, ?_⟩
  · cases (call world.service).result with
    | ok value => exact .ok rfl
    | error failure => exact .error failure
  · simp only [List.map_append, same.trace, events]

theorem of_alike {licence : Licence} {service twin : Service σ} {part other : Run σ α}
    (alike : Run.Alike licence service twin part other) (services : service.Indistinct twin) :
    Indistinct Eq part other := by
  induction alike with
  | pure value => exact .pure rfl
  | bind _ _ first onward =>
      refine first.bind ?_
      rintro value _ rfl
      exact onward value
  | fail _ => exact .fail _
  | emit _ =>
      intro world twin same
      refine ⟨.ok rfl, same.service, same.draws, ?_⟩
      simp [same.trace]
  | draw take _ =>
      intro world twin same
      simp only [draw_apply, same.draws]
      exact ⟨.ok rfl, same.service, rfl, same.trace⟩
  | ask call _ => exact .ask (services.answer call)

theorem outcome {related : α → β → Prop} {part : Run σ α} {other : Run σ β}
    (same : Indistinct related part other) :
    Indistinct (EndsAlike related) (Run.outcome part) (Run.outcome other) := by
  intro world twin worlds
  obtain ⟨ended, later⟩ := same world twin worlds
  exact ⟨.ok ended, later⟩

end Indistinct

end Run

section

variable {service twin : Service σ} (services : service.Indistinct twin)
include services

theorem Service.make_indistinct (call : BoardCall) :
    Run.Indistinct Eq (service.make call) (twin.make call) := by
  cases call with
  | boards => exact .returned (.ask (services.answer .boards)) _
  | columns board => exact .returned (.ask (services.answer (.columns board))) _
  | cards board => exact .returned (.ask (services.answer (.cards board))) _
  | cardsIn column => exact .returned (.ask (services.answer (.cardsIn column))) _
  | labels board => exact .returned (.ask (services.answer (.labels board))) _
  | create draft => exact .returned (.ask (services.answer (.create draft))) _
  | move card column position =>
      exact .returned (.ask (services.answer (.move card column position))) _

theorem Service.put_indistinct (use : Service.Use) :
    Run.Indistinct Eq (service.put use) (twin.put use) := by
  cases use with
  | call call => exact make_indistinct services call
  | rename card name => exact .returned (.ask (services.rename card name)) _
  | describe card description => exact .returned (.ask (services.describe card description)) _
  | findBoard name => exact .returned (.returned (.ask (services.answer .boards)) _) _
  | findColumn board name =>
      exact .returned (.returned (.ask (services.answer (.columns board))) _) _
  | findLabel board name caseSensitive =>
      refine .returned (.bind (.ask (services.answer (.labels board))) ?_) _
      rintro labels _ rfl
      cases Service.labelNamed? labels name caseSensitive with
      | ok found => exact .pure rfl
      | error cause => exact .fail _

theorem Executor.carryOut_indistinct (executor : Executor σ) (own : executor.service = service)
    (work : Executor.Work) :
    Run.Indistinct Eq (executor.carryOut work) ((executor.withService twin).carryOut work) := by
  subst own
  have entered (underWay : List String) (entrance : Entrance) (name : String) :=
    Run.Indistinct.of_alike (executor.enter_freely twin underWay entrance name) services
  cases work with
  | tasks => exact .pure rfl
  | run name =>
      refine .returned ?_ _
      unfold runNamed
      cases name with
      | text name => exact entered [] .fresh name
      | _ =>
          dsimp only
          split
          · exact .fail _
          · exact .fail _
  | resume underWay pipeline name =>
      exact .returned (entered underWay (.continuing pipeline) name) _
  | position place column =>
      have landed : Run.Alike .free executor.service twin (executor.landing place column)
          ((executor.withService twin).landing place column) :=
        executor.landing_alike twin place column fun _ => trivial
      exact .returned (.of_alike landed services) _

def Executor.OnTwins (service twin : Service σ) (executor other : Executor σ) : Prop :=
  executor.service = service ∧ other = executor.withService twin

theorem Executor.start_indistinct (program : Program) (limit : DepthLimit) :
    Run.Indistinct (Executor.OnTwins service twin) (Executor.start program service limit)
      (Executor.start program twin limit) := by
  have found : Run.Indistinct Eq (service.findBoard (.text program.board))
      (twin.findBoard (.text program.board)) := .returned (.ask (services.answer .boards)) _
  refine found.bind ?_
  rintro board _ rfl
  cases board with
  | none => exact .fail _
  | some board => exact .pure ⟨rfl, rfl⟩

/-- The executors that are at hand in two sessions that go the same way. -/
inductive Executor.AtHand (service twin : Service σ) :
    Option (Executor σ) → Option (Executor σ) → Prop where
  | none : AtHand service twin none none
  | some {executor other : Executor σ} :
      Executor.OnTwins service twin executor other →
        AtHand service twin (some executor) (some other)

theorem Operation.perform_indistinct {executor other : Option (Executor σ)}
    (atHand : Executor.AtHand service twin executor other) (operation : Operation) :
    Run.Indistinct
      (fun given told => given.1 = told.1 ∧ Executor.AtHand service twin given.2 told.2)
      (operation.perform service executor) (operation.perform twin other) := by
  cases operation with
  | start program limit =>
      refine (Executor.start_indistinct services program limit).bind fun begun started onTwins => ?_
      exact .pure ⟨congrArg Answer.started (by rw [onTwins.2]; rfl), .some onTwins⟩
  | work asked =>
      cases atHand with
      | none => exact .fail _
      | some onTwins =>
          obtain ⟨own, rfl⟩ := onTwins
          exact (Executor.carryOut_indistinct services _ own asked).bind fun _ _ same =>
            .pure ⟨same, .some ⟨own, rfl⟩⟩
  | use asked =>
      exact (Service.put_indistinct services asked).bind fun _ _ same => .pure ⟨same, atHand⟩

theorem Service.session_indistinct {executor other : Option (Executor σ)}
    (atHand : Executor.AtHand service twin executor other) (operations : List Operation) :
    Run.Indistinct Eq (service.session executor operations) (twin.session other operations) := by
  induction operations generalizing executor other with
  | nil => exact .pure rfl
  | cons operation rest ih =>
      refine (Operation.perform_indistinct services atHand operation).outcome.bind ?_
      intro ended given same
      cases same with
      | error failure => exact (ih atHand).returned _
      | @ok told heard holds =>
          obtain ⟨answer, next⟩ := told
          obtain ⟨_, follow⟩ := heard
          obtain ⟨rfl, nextAtHand⟩ := holds
          exact (ih nextAtHand).returned _

end

namespace Trello

/-- The same client with other credentials. -/
def withCredentials (client : Trello) (key token : Tree) : Trello :=
  { client with key, token }

theorem request_withoutCredentials (client : Trello) (key token : Tree) (method path : String)
    (parameters : List (String × Tree)) :
    ((client.withCredentials key token).request method path parameters).withoutCredentials =
      (client.request method path parameters).withoutCredentials := by
  simp [request, withCredentials, HttpRequest.withoutCredentials, HttpRequest.credentialNames]

theorem announced_indistinct {message : String} {reply twin : Reply σ α}
    (same : reply.Indistinct twin) :
    (announced message reply).Indistinct (announced message twin) :=
  ⟨same.result, same.state, by simp [announced, same.events]⟩

section

variable (client : Trello) (key token : Tree) {transport : Transport σ} (blind : transport.IsBlind)
include blind

theorem send_indistinct (method path : String) (parameters : List (String × Tree))
    (read : Tree → Except Misuse α) (state : σ) :
    (client.send transport method path parameters read state).Indistinct
      ((client.withCredentials key token).send transport method path parameters read state) := by
  have same := client.request_withoutCredentials key token method path parameters
  have sent := blind _ _ state same
  simp only [send, sent]
  exact ⟨rfl, rfl, by simp [Event.withoutCredentials, same]⟩

theorem service_indistinct :
    (client.service transport).Indistinct
      ((client.withCredentials key token).service transport) where
  answer call state := by
    cases call with
    | create draft => exact announced_indistinct (client.send_indistinct key token blind ..)
    | move => exact announced_indistinct (client.send_indistinct key token blind ..)
    | _ => exact client.send_indistinct key token blind _ _ _ _ state
  rename _ _ := client.send_indistinct key token blind _ _ _ _
  describe _ _ := client.send_indistinct key token blind _ _ _ _

end

/-- Two clients that differ in their credentials are answered the same in every session, fail in the
same way, write the same to the log and send the same requests, once the credentials are taken out
of them; the draws and the session they leave are the same too. -/
theorem credentials_stay_in_requests (client : Trello) (key token : Tree)
    {transport : Transport σ} (blind : transport.IsBlind) (operations : List Operation)
    (world : World σ) :
    let own := (client.service transport).session none operations world
    let other := ((client.withCredentials key token).service transport).session none operations
      world
    own.1 = other.1 ∧ own.2.service = other.2.service ∧ own.2.draws = other.2.draws ∧
      own.2.trace.map Event.withoutCredentials = other.2.trace.map Event.withoutCredentials := by
  intro own other
  obtain ⟨ended, left⟩ := Service.session_indistinct
    (client.service_indistinct key token blind) .none operations world world (.refl world)
  refine ⟨?_, left.service, left.draws, left.trace⟩
  change Run.EndsAlike Eq own.1 other.1 at ended
  generalize own.1 = result at ended ⊢
  generalize other.1 = given at ended ⊢
  cases ended with
  | ok same => exact congrArg Except.ok same
  | error failure => rfl

/-- Every script is blind: a task is run, a card is renamed and the task is run again. -/
theorem credentials_stay_in_requests_of_script :
    let client : Trello :=
      { key := .text "k", token := .text "t", base := defaultBase, timeout := defaultTimeout }
    let program : Program :=
      { board := "ENG"
        tasks := [("sweep", .flow ["inbox", "away"]), ("inbox", .take (.column "Inbox") 0 .top),
          ("away", .act (.move { column := "Done", place := .random }))] }
    let operations : List Operation :=
      [.start program .standard, .work (.run (.text "sweep")),
        .use (.rename (.text "k1") (.text "B")), .work (.run (.text "sweep"))]
    Transport.scripted.IsBlind ∧ ∀ (script : List Exchange) (draws : Draws),
      let start : World (List Exchange) := { service := script, draws }
      let own := (client.service .scripted).session none operations start
      let other := ((client.withCredentials (.text "key") (.text "secret")).service
        .scripted).session none operations start
      own.1 = other.1 ∧
        own.2.trace.map Event.withoutCredentials = other.2.trace.map Event.withoutCredentials := by
  intro client program operations
  refine ⟨Transport.scripted_isBlind, fun script draws => ?_⟩
  obtain ⟨ended, _, _, told⟩ := credentials_stay_in_requests client (.text "key") (.text "secret")
    Transport.scripted_isBlind operations { service := script, draws }
  exact ⟨ended, told⟩

end Trello

end Kanban
