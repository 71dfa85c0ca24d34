import Kanban.Proofs.Task.Roles
import Kanban.Proofs.Tree.Replacing

namespace Kanban

open Grammar (Has Lacks)

namespace Grammar

variable {Swaps : Tree → Tree → Prop} {node other : Tree} {name : String}

theorem Has.replaced (swap : Tree.IsSwap Swaps) (replaces : node.Replaces Swaps other)
    {value : Tree} (found : Has node name value) :
    ∃ value', Has other name value' ∧ value.Replaces Swaps value' := by
  obtain @⟨entries, _, _, located, notNull⟩ := found
  cases replaces with
  | kept => exact ⟨value, .field located notNull, .kept value⟩
  | swapped swaps => exact absurd rfl (swap.notMap swaps entries)
  | @map _ others related =>
      have same := Tree.entry?_entrywise related name
      generalize there : Tree.entry? others name = found at same
      rw [located] at same
      cases same with
      | some same => exact ⟨_, .field there (mt (same.null_iff swap).mpr notNull), same⟩

theorem Lacks.replaced (swap : Tree.IsSwap Swaps) (replaces : node.Replaces Swaps other)
    (lacking : Lacks node name) : Lacks other name := by
  cases replaces with
  | kept => exact lacking
  | swapped swaps =>
      cases lacking with
      | missing | null => exact absurd rfl (swap.notMap swaps _)
  | list => cases lacking
  | @map entries others related =>
      have same := Tree.entry?_entrywise related name
      generalize there : Tree.entry? others name = found at same
      cases lacking with
      | missing located =>
          rw [located] at same
          cases same
          exact .missing there
      | null located =>
          rw [located] at same
          cases same with
          | some same =>
              rw [(same.null_iff swap).mp rfl] at there
              exact .null there

end Grammar

/-- Whatever the first reading gives, the second gives something like it. -/
def Comparison.ofSuccess (textCounts : Prop) : Comparison where
  textCounts := textCounts
  Agree Like result other :=
    ∀ value, result = .ok value → ∃ value', other = .ok value' ∧ Like value value'
  ok like := by
    rintro _ ⟨⟩
    exact ⟨_, rfl, like⟩
  error _ := nofun
  bind agree onward := by
    intro read done
    obtain ⟨value, first, second⟩ := Field.bind_ok.mp done
    obtain ⟨value', again, like⟩ := agree value first
    obtain ⟨read', done', alike⟩ := onward value value' first again like read second
    exact ⟨read', Field.bind_ok.mpr ⟨value', again, done'⟩, alike⟩

namespace Field

theorem given?_ok {node : Tree} {name : String} {found : Option Tree} :
    given? node name = .ok found ↔
      Grammar.Optional .ofNumerals (fun value found => some value = found) node name none found :=
  Grammar.withDefault_ok fun _ _ => ⟨Except.ok.inj, congrArg Except.ok⟩

variable {Swaps Alike : Tree → Tree → Prop} {node other : Tree} {name : String} {textCounts : Prop}

section

variable (swap : Tree.IsSwap Swaps) (replaces : node.Replaces Swaps other)
  (alike : ∀ value value', Has node name value → Has other name value' →
    value.Replaces Swaps value' → Alike value value')

include swap replaces alike

theorem required_replaced :
    (Comparison.ofSuccess textCounts).Agree Alike (required node name) (required other name) := by
  intro value found
  have has := Grammar.required_ok.mp found
  obtain ⟨value', there, same⟩ := has.replaced swap replaces
  exact ⟨value', Grammar.required_ok.mpr there, alike value value' has there same⟩

theorem given?_replaced :
    (Comparison.ofSuccess textCounts).Agree (Option.Rel Alike) (given? node name)
      (given? other name) := by
  intro found given
  cases given?_ok.mp given with
  | given given =>
      obtain ⟨value, has, rfl⟩ := given
      obtain ⟨value', there, same⟩ := has.replaced swap replaces
      exact ⟨some value', given?_ok.mpr (.given ⟨value', there, rfl⟩),
        .some (alike value value' has there same)⟩
  | absent lacking writable =>
      have writable := Tree.isWritable_of_replaces swap replaces writable
      exact ⟨none, given?_ok.mpr (.absent (lacking.replaced swap replaces) writable), .none⟩

end

end Field

end Kanban
