import Kanban.Draws
import Kanban.Event
import Kanban.Trouble

/-!
Runs: computations on a world, which is the state of a board service, the draws that are left and
the trace of what has happened.  A run ends with a value or with a failure; the world it leaves is
there in both cases, so nothing that was done before a failure is undone.
-/
namespace Kanban

structure World (σ : Type) where
  service : σ
  draws : Draws
  trace : List Event := []

def Run (σ α : Type) : Type :=
  World σ → Except Failure α × World σ

/-- What a service gives for a call: a result, its next state and the events on the way. -/
structure Reply (σ α : Type) where
  result : Except Failure α
  state : σ
  events : List Event := []

namespace Run

protected def pure (value : α) : Run σ α :=
  fun world => (.ok value, world)

protected def bind (first : Run σ α) (next : α → Run σ β) : Run σ β :=
  fun world =>
    match first world with
    | (.ok value, later) => next value later
    | (.error failure, later) => (.error failure, later)

instance : Monad (Run σ) where
  pure := Run.pure
  bind := Run.bind

@[simp] theorem pure_apply (value : α) (world : World σ) :
    (pure value : Run σ α) world = (.ok value, world) := rfl

theorem bind_apply (first : Run σ α) (next : α → Run σ β) (world : World σ) :
    (first >>= next) world =
      match first world with
      | (.ok value, later) => next value later
      | (.error failure, later) => (.error failure, later) := rfl

theorem bind_of_ok {first : Run σ α} {next : α → Run σ β} {world between : World σ} {value : α}
    (done : first world = (.ok value, between)) : (first >>= next) world = next value between := by
  rw [bind_apply, done]

theorem bind_of_error {first : Run σ α} {next : α → Run σ β} {world between : World σ}
    {failure : Failure} (failed : first world = (.error failure, between)) :
    (first >>= next) world = (.error failure, between) := by
  rw [bind_apply, failed]

theorem bind_ok {first : Run σ α} {next : α → Run σ β} {world later : World σ} {result : β}
    (done : (first >>= next) world = (.ok result, later)) :
    ∃ value between, first world = (.ok value, between) ∧
      next value between = (.ok result, later) := by
  rw [bind_apply] at done
  split at done
  next value between part => exact ⟨value, between, part, done⟩
  next => cases done

theorem bind_error {first : Run σ α} {next : α → Run σ β} {world later : World σ}
    {failure : Failure} (failed : (first >>= next) world = (.error failure, later)) :
    first world = (.error failure, later) ∨
      ∃ value between, first world = (.ok value, between) ∧
        next value between = (.error failure, later) := by
  rw [bind_apply] at failed
  split at failed
  next value between part => exact Or.inr ⟨value, between, part, failed⟩
  next cause between part =>
    cases failed
    exact Or.inl part

instance : LawfulMonad (Run σ) :=
  LawfulMonad.mk' (Run σ)
    (by
      intro α first
      funext world
      change (match first world with
        | (.ok value, later) => (.ok value, later)
        | (.error failure, later) => (.error failure, later)) = first world
      rcases first world with ⟨_ | _, _⟩ <;> rfl)
    (by
      intros
      rfl)
    (by
      intro α β γ first second third
      funext world
      simp only [bind_apply]
      rcases first world with ⟨_ | _, _⟩ <;> rfl)

theorem map_apply (change : α → β) (run : Run σ α) (world : World σ) :
    (change <$> run) world =
      match run world with
      | (.ok value, later) => (.ok (change value), later)
      | (.error failure, later) => (.error failure, later) := by
  rw [map_eq_pure_bind, bind_apply]
  rcases run world with ⟨_ | _, _⟩ <;> rfl

def fail (failure : Failure) : Run σ α :=
  fun world => (.error failure, world)

def trouble (cause : RunTrouble) : Run σ α :=
  fail (.ofRun cause)

def misuse (cause : Misuse) : Run σ α :=
  fail (.misuse cause)

def emit (events : List Event) : Run σ Unit :=
  fun world => (.ok (), { world with trace := world.trace ++ events })

def debug (message : String) : Run σ Unit :=
  emit [.debug message]

def info (message : String) : Run σ Unit :=
  emit [.info message]

def ask (call : σ → Reply σ α) : Run σ α :=
  fun world =>
    let reply := call world.service
    (reply.result,
      { world with service := reply.state, trace := world.trace ++ reply.events })

def draw (take : Draws → α × Draws) : Run σ α :=
  fun world =>
    let (value, rest) := take world.draws
    (.ok value, { world with draws := rest })

/-- Runs a part whose trouble is dealt with afterwards; what no rule foresees is not caught. -/
def attempt (part : Run σ α) : Run σ (Except Trouble α) :=
  fun world =>
    match part world with
    | (.ok value, later) => (.ok (.ok value), later)
    | (.error (.trouble cause), later) => (.ok (.error cause), later)
    | (.error (.misuse cause), later) => (.error (.misuse cause), later)

def ofExcept (wrap : ε → Failure) : Except ε α → Run σ α
  | .ok value => pure value
  | .error cause => fail (wrap cause)

@[simp] theorem fail_apply (failure : Failure) (world : World σ) :
    (fail failure : Run σ α) world = (.error failure, world) := rfl

@[simp] theorem emit_apply (events : List Event) (world : World σ) :
    emit events world = (.ok (), { world with trace := world.trace ++ events }) := rfl

@[simp] theorem ask_apply (call : σ → Reply σ α) (world : World σ) :
    ask call world = ((call world.service).result,
      { world with
        service := (call world.service).state
        trace := world.trace ++ (call world.service).events }) := rfl

@[simp] theorem draw_apply (take : Draws → α × Draws) (world : World σ) :
    draw take world =
      (.ok (take world.draws).1, { world with draws := (take world.draws).2 }) := rfl

@[simp] theorem ofExcept_ok (wrap : ε → Failure) (value : α) :
    (ofExcept wrap (.ok value) : Run σ α) = pure value := rfl

@[simp] theorem ofExcept_error (wrap : ε → Failure) (cause : ε) :
    (ofExcept wrap (.error cause) : Run σ α) = fail (wrap cause) := rfl

theorem ofExcept_returned {wrap : ε → Failure} {result : Except ε α} {world later : World σ}
    {value : α} (returned : ofExcept wrap result world = (.ok value, later)) :
    result = .ok value ∧ later = world := by
  cases result with
  | error cause => cases returned
  | ok given =>
      cases returned
      exact ⟨rfl, rfl⟩

end Run

end Kanban
