namespace Kanban.Number

/-- The most decimal digits that a whole number may have, its sign apart. -/
def mostDigits : Nat :=
  4300

def tooLong : Nat :=
  Nat.pow 10 mostDigits

def isWritable (n : Int) : Bool :=
  decide (n.natAbs < tooLong)

@[simp] theorem isWritable_neg (n : Int) : isWritable (-n) = isWritable n := by
  simp [isWritable]

end Kanban.Number
