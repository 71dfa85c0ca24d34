import Kanban.Trouble

namespace Kanban

def FailsOnlyWith {ε α : Type} (expected : ε → Prop) (result : Except ε α) : Prop :=
  ∀ failure, result = .error failure → expected failure

theorem exists_ok {ε α : Type} {result : Except ε α} {holds : α → Bool}
    (checked : result.toOption.any holds = true) :
    ∃ value, result = .ok value ∧ holds value = true := by
  cases result with
  | error failure => cases checked
  | ok value => exact ⟨value, rfl, checked⟩

namespace FailsOnlyWith

variable {ε δ α β : Type} {expected : ε → Prop} {result : Except ε α}

theorem ok (value : α) : FailsOnlyWith expected (.ok value) := nofun

theorem error {failure : ε} (allowed : expected failure) :
    FailsOnlyWith expected (.error failure : Except ε α) := by
  rintro _ ⟨⟩
  exact allowed

theorem bind {next : α → Except ε β} (first : FailsOnlyWith expected result)
    (onward : ∀ value, result = .ok value → FailsOnlyWith expected (next value)) :
    FailsOnlyWith expected (result >>= next) := by
  intro failure failed
  cases done : result with
  | error cause =>
      rw [done] at failed
      cases failed
      exact first _ done
  | ok value =>
      rw [done] at failed
      exact onward value done failure failed

theorem mono {others : ε → Prop} (fails : FailsOnlyWith expected result)
    (broader : ∀ failure, expected failure → others failure) : FailsOnlyWith others result :=
  fun failure failed => broader failure (fails failure failed)

theorem mapError {others : δ → Prop} {wrap : ε → δ} (fails : FailsOnlyWith expected result)
    (carried : ∀ failure, expected failure → others (wrap failure)) :
    FailsOnlyWith others (result.mapError wrap) := by
  intro failure failed
  cases done : result with
  | error cause =>
      rw [done] at failed
      cases failed
      exact carried cause (fails cause done)
  | ok value =>
      rw [done] at failed
      cases failed

theorem showing {expected : Failure → Prop} {values : List Tree} {trouble : Trouble}
    (known : expected (.trouble trouble))
    (unwritten : ∀ value ∈ values, value.isWritable = false → expected (.misuse .notANumeral)) :
    FailsOnlyWith expected (.error (.showing values trouble) : Except Failure α) := by
  refine .error ?_
  rw [Failure.showing]
  split
  next => exact known
  next unwritable =>
    rw [Bool.not_eq_true, List.all_eq_false] at unwritable
    obtain ⟨value, member, long⟩ := unwritable
    exact unwritten value member ((Bool.not_eq_true _).mp long)

end FailsOnlyWith

end Kanban
