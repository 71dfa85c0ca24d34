import Kanban.Run

/-!
Runs that keep an invariant of their service.  From a state that has it, such a run comes to one
that has it too; it gives a value that is as good as it says, or a failure that was expected.
-/
namespace Kanban

/-- Failures that a run tells its user about. -/
def Failure.IsOfRun (failure : Failure) : Prop :=
  ∃ cause, failure = .ofRun cause

namespace Run

def SafeEnd (expected : Failure → Prop) (good : α → Prop) : Except Failure α → Prop
  | .ok value => good value
  | .error failure => expected failure

def Safe (invariant : σ → Prop) (expected : Failure → Prop) (good : α → Prop) (run : Run σ α) :
    Prop :=
  ∀ world, invariant world.service →
    SafeEnd expected good (run world).1 ∧ invariant (run world).2.service

namespace Safe

variable {invariant : σ → Prop} {expected : Failure → Prop}

theorem pure {good : α → Prop} {value : α} (holds : good value) :
    Safe invariant expected good (Pure.pure value : Run σ α) :=
  fun _ kept => ⟨holds, kept⟩

theorem fail {good : α → Prop} {failure : Failure} (foreseen : expected failure) :
    Safe invariant expected good (Run.fail failure : Run σ α) :=
  fun _ kept => ⟨foreseen, kept⟩

theorem bind {good : α → Prop} {after : β → Prop} {first : Run σ α} {next : α → Run σ β}
    (safe : Safe invariant expected good first)
    (onward : ∀ value, good value → Safe invariant expected after (next value)) :
    Safe invariant expected after (first >>= next) := by
  intro world kept
  obtain ⟨ended, kept⟩ := safe world kept
  rcases done : first world with ⟨failure | value, between⟩
  · rw [done] at ended kept
    rw [bind_of_error done]
    exact ⟨ended, kept⟩
  · rw [done] at ended kept
    rw [bind_of_ok done]
    exact onward value ended between kept

theorem emit (events : List Event) :
    Safe invariant expected (fun _ => True) (Run.emit events : Run σ Unit) :=
  fun _ kept => ⟨trivial, kept⟩

theorem draw {good : α → Prop} {take : Draws → α × Draws} (drawn : ∀ draws, good (take draws).1) :
    Safe invariant expected good (Run.draw take : Run σ α) :=
  fun world kept => ⟨drawn world.draws, kept⟩

theorem drawAny (take : Draws → α × Draws) :
    Safe invariant expected (fun _ => True) (Run.draw take : Run σ α) :=
  .draw fun _ => trivial

theorem ofExcept {good : α → Prop} {wrap : ε → Failure} {result : Except ε α}
    (ended : SafeEnd expected good (result.mapError wrap)) :
    Safe invariant expected good (Run.ofExcept wrap result : Run σ α) := by
  cases result with
  | ok value => exact .pure ended
  | error cause => exact .fail ended

theorem ask {good : α → Prop} {call : σ → Reply σ α}
    (answers : ∀ state, invariant state →
      SafeEnd expected good (call state).result ∧ invariant (call state).state) :
    Safe invariant expected good (Run.ask call) :=
  fun world kept => answers world.service kept

end Safe

end Run

end Kanban
