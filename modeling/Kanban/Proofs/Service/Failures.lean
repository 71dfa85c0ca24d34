import Kanban.Proofs.Run.Alike
import Kanban.Proofs.Service.Memory.Write
import Kanban.Trello

namespace Kanban

def Failure.kind? : Failure → Option TroubleKind
  | trouble cause => some cause.kind
  | misuse _ => none

def Failure.IsOfBoard (failure : Failure) : Prop :=
  ∀ kind, failure.kind? = some kind → kind = .board

@[simp] theorem Failure.isOfBoard_misuse (cause : Misuse) : (misuse cause).IsOfBoard := nofun

theorem Failure.isOfBoard_ofRun {trouble : RunTrouble} (board : trouble.kind = .board) :
    (ofRun trouble).IsOfBoard := by
  rintro kind ⟨⟩
  exact board

namespace Memory

theorem create_fails (draft : Draft) (memory : Memory) {failure : Failure}
    (failed : (create draft memory).result = .error failure) : failure.IsOfBoard := by
  have creating := create_creating draft memory
  generalize create draft memory = reply at creating failed
  cases creating with
  | down =>
      cases failed
      exact Failure.isOfBoard_ofRun rfl
  | misplaced =>
      cases failed
      exact Failure.isOfBoard_misuse _
  | appended => cases failed

theorem move_fails (id column position : Tree) (memory : Memory) {failure : Failure}
    (failed : (move id column position memory).result = .error failure) : failure.IsOfBoard := by
  have moving := move_moving id column position memory
  generalize move id column position memory = reply at moving failed
  cases moving with
  | down | unknown =>
      cases failed
      exact Failure.isOfBoard_ofRun rfl
  | misplaced =>
      cases failed
      exact Failure.isOfBoard_misuse _
  | replaced => cases failed

theorem service_fails : service.FailsOnlyWith Failure.IsOfBoard := by
  intro α call memory failure failed
  cases call with
  | boards | columns | cards | cardsIn | labels => cases failed
  | create draft => exact create_fails draft memory failed
  | move id column position => exact move_fails id column position memory failed

end Memory

namespace Trello

theorem outcome_fails {method path : String} {exchange : Exchange} {failure : Failure}
    (failed : outcome method path exchange = .error failure) : failure.IsOfBoard := by
  unfold outcome at failed
  split at failed
  · cases failed
    exact Failure.isOfBoard_ofRun rfl
  · split at failed
    · split at failed
      · cases failed
      · cases failed
        exact Failure.isOfBoard_ofRun rfl
      · cases failed
        exact Failure.isOfBoard_misuse _
    · cases failed
      exact Failure.isOfBoard_ofRun rfl

theorem send_fails {client : Trello} {transport : Transport σ} {method path : String}
    {parameters : List (String × Tree)} {read : Tree → Except Misuse α} {state : σ}
    {failure : Failure}
    (failed : (client.send transport method path parameters read state).result = .error failure) :
    failure.IsOfBoard := by
  unfold send at failed
  dsimp only at failed
  split at failed
  next value brought =>
    cases understood : read value with
    | ok entity =>
        rw [understood] at failed
        cases failed
    | error cause =>
        rw [understood] at failed
        cases failed
        exact Failure.isOfBoard_misuse cause
  next cause brought =>
    cases failed
    exact outcome_fails brought

theorem service_fails (client : Trello) (transport : Transport σ) :
    (client.service transport).FailsOnlyWith Failure.IsOfBoard := by
  intro α call state failure failed
  cases call with
  | boards | columns | cards | cardsIn | labels | create | move => exact send_fails failed

end Trello

end Kanban
