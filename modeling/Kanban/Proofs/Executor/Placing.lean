import Kanban.Proofs.Executor.InMemory
import Kanban.Proofs.Number.Exact
import Mathlib.Data.List.Nodup
import Mathlib.Data.List.Sort

/-!
Places drawn at random.  One draw chooses a gap of a column: so many of its cards lie above the
place and the others below it.  The numbers between which a place lies are read exactly here, for
the middle of two neighbours may be no number of sixty-four bits.
-/
namespace Kanban

namespace Landing

def exactMiddle (x y : ℚ) : ℚ :=
  (x + y) / 2

def among (positions : List ℚ) (slot : Nat) : Landing ℚ :=
  inGap exactMiddle (positions.mergeSort (· ≤ ·)) slot

section

variable {sorted positions others : List ℚ} {slot : Nat}

def above (positions : List ℚ) : Landing ℚ → Nat
  | top => 0
  | bottom => positions.length
  | .at r => positions.countP (· < r)

end

end Landing

namespace Executor

open Landing (among)

end Executor

end Kanban
