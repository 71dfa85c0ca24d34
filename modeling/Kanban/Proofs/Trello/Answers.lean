import Kanban.Proofs.Trello.Request

/-!
What becomes of the answers that a session gives to a client of Trello.  Trouble with the board is
what could not be sent, what was refused and what is not JSON.  Anything else counts as an answer,
whether its status is one of success or not; where its data is not that of the entities asked for,
the call ends in a misuse, which is not trouble with the board.
-/
namespace Kanban

def HttpResponse.isSuccess (response : HttpResponse) : Bool :=
  200 ≤ response.status && response.status < 300

namespace Exchange

def data? : Exchange → Option (Except Json.Flaw Tree)
  | answered response => if response.isFine then some response.data else none
  | refused _ => none

def refusal? : Exchange → Option Int
  | answered response => if response.isFine then none else some response.status
  | refused _ => none

end Exchange

namespace Trello

inductive Receives (call : Service.Call α) (exchange : Exchange) : Except Failure α → Prop where
  | trouble {cause : RunTrouble} :
      exchange.data? = none ∨ exchange.data? = some (.error .malformed) →
      cause.kind = .board → cause.status? = exchange.refusal? →
      Receives call exchange (.error (.ofRun cause))
  | tooDeep : exchange.data? = some (.error .tooDeep) →
      Receives call exchange (.error (.misuse .endless))
  | unreadable {data : Tree} {cause : Misuse} :
      exchange.data? = some (.ok data) → reading call data = .error cause →
      Receives call exchange (.error (.misuse cause))
  | read {data : Tree} {value : α} :
      exchange.data? = some (.ok data) → reading call data = .ok value →
      Receives call exchange (.ok value)

theorem received_receives (call : Service.Call α) (exchange : Exchange) :
    Receives call exchange (received call exchange) := by
  cases exchange with
  | refused reason => exact .trouble (.inl rfl) rfl rfl
  | answered response =>
      cases fine : response.isFine with
      | false =>
          simp only [received, outcome, fine, Bool.false_eq_true, if_false]
          exact .trouble (.inl (by simp [Exchange.data?, fine])) rfl
            (by simp [RunTrouble.status?, Exchange.refusal?, fine])
      | true =>
          have carried : (Exchange.answered response).data? = some response.data := by
            simp [Exchange.data?, fine]
          simp only [received, outcome, fine, if_true]
          cases brought : response.data with
          | error flaw =>
              rw [brought] at carried
              cases flaw with
              | malformed =>
                  exact .trouble (.inr carried) rfl
                    (by simp [RunTrouble.status?, Exchange.refusal?, fine])
              | tooDeep => exact .tooDeep carried
          | ok data =>
              rw [brought] at carried
              dsimp only
              cases understood : reading call data with
              | ok value => exact .read carried understood
              | error cause => exact .unreadable carried understood

/-- One request is sent for every call.  The call succeeds exactly if that request is answered
without a refusal and the answer is the entities asked for; it ends in trouble exactly if the
request could not be sent, was refused or was answered with what is not JSON, and this is trouble
with the board, with the status of the refusal if there was one; and in all other cases it ends in a
misuse. -/
theorem calls_are_answered (client : Trello) (transport : Transport σ) (call : Service.Call α)
    (state : σ) :
    let request := client.requestOf call.recorded
    let exchange := (transport.send request state).1
    let reply := (client.service transport).answer call state
    reply.events.filter (!·.isLog) = [.request request] ∧
    reply.state = (transport.send request state).2 ∧
    (∀ value, reply.result = .ok value ↔
      ∃ data, exchange.data? = some (.ok data) ∧ reading call data = .ok value) ∧
    ((∃ cause, reply.result = .error (.trouble cause)) ↔
      exchange.data? = none ∨ exchange.data? = some (.error .malformed)) ∧
    (∀ cause, reply.result = .error (.trouble cause) →
      ∃ trouble, cause = .run trouble ∧ trouble.kind = .board ∧
        trouble.status? = exchange.refusal?) ∧
    (∀ cause, reply.result = .error (.misuse cause) ↔
      exchange.data? = some (.error .tooDeep) ∧ cause = .endless ∨
        ∃ data, exchange.data? = some (.ok data) ∧ reading call data = .error cause) := by
  intro request exchange reply
  have replied : reply = _ := client.answer_eq transport call state
  have receives : Receives call exchange reply.result := by
    rw [replied]
    exact received_receives call exchange
  have told : reply.events.filter (!·.isLog) = [.request request] := by
    have notes : (notes call.recorded).filter (!·.isLog) = [] := by
      simpa using notes_are_logs call.recorded
    rw [replied, List.filter_append, notes]
    rfl
  refine ⟨told, by rw [replied], ?_⟩
  generalize reply.result = result at receives
  cases receives with
  | trouble nothing board status =>
      refine ⟨fun value => ?_, ?_, ?_, fun other => ?_⟩
      · rcases nothing with nothing | nothing <;> simp [nothing]
      · exact ⟨fun _ => nothing, fun _ => ⟨_, rfl⟩⟩
      · rintro _ ⟨⟩
        exact ⟨_, rfl, board, status⟩
      · rcases nothing with nothing | nothing <;> simp [nothing, Failure.ofRun]
  | tooDeep carried => simp [carried, eq_comm]
  | unreadable carried understood => simp [carried, understood]
  | read carried understood => simp [carried, understood]

/-- A status that is no success is taken for one where it is no refusal either, and a successful
answer with an entity that has no identifier ends in no trouble with the board. -/
theorem redirections_pass_for_successes :
    let client : Trello :=
      { key := .text "k", token := .text "t", base := defaultBase, timeout := defaultTimeout }
    let service := client.service .scripted
    let unchanged : HttpResponse := { status := 304, text := "[]" }
    let nameless : HttpResponse := { text := "[\x7b\x7d]" }
    unchanged.isSuccess = false ∧ (service.boards [.answered unchanged]).result = .ok [] ∧
      nameless.isSuccess = true ∧
      (service.boards [.answered nameless]).result = .error (.misuse .missingEntry) :=
  ⟨rfl, rfl, rfl, rfl⟩

end Trello

end Kanban
