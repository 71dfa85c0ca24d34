import Kanban.Proofs.Run.SameWork

namespace Kanban

def Run.outcome (part : Run σ α) : Run σ (Except Failure α) :=
  fun world => (.ok (part world).1, (part world).2)

@[simp] theorem Run.outcome_pure (value : α) :
    Run.outcome (pure value : Run σ α) = pure (.ok value) := rfl

@[simp] theorem Run.outcome_fail_bind (failure : Failure) (next : α → Run σ β) :
    Run.outcome (Run.fail failure >>= next) = pure (.error failure) := rfl

theorem Run.SameWork.outcome {part other : Run σ α} (same : part.SameWork other) :
    (Run.outcome part).SameWork (Run.outcome other) := by
  intro world twin agrees
  obtain ⟨result, later⟩ := same world twin agrees
  exact ⟨congrArg Except.ok result, later⟩

end Kanban
