import Kanban.Tree.Written

/-!
The bound on the number of tasks that may be under way inside one another.  It is a whole number
that can be written out unless a settings file says otherwise, and what is no number at all bounds
nothing: comparing a depth with it is a misuse.
-/
namespace Kanban

inductive DepthLimit where
  | levels (count : Int)
  | other (value : Tree)

namespace DepthLimit

def standard : DepthLimit :=
  levels 32

def ofTree : Tree → DepthLimit
  | .int count => if Number.isWritable count then levels count else other (.int count)
  | value => other value

def shown : DepthLimit → String
  | levels count => Tree.intText count
  | other value => value.shown

/-- Whether so many tasks under way leave no room for one more; none if that has no answer. -/
def reachedAt? (limit : DepthLimit) (depth : Nat) : Option Bool :=
  match limit with
  | levels count => some (count ≤ depth)
  | other (.real value) => some (value ≤ depth.toFloat)
  | other .undefined => some false
  | other value => value.integer?.map (· ≤ (depth : Int))

@[simp] theorem reachedAt?_levels (count : Int) (depth : Nat) :
    (levels count).reachedAt? depth = some (decide (count ≤ depth)) := rfl

end DepthLimit

end Kanban
