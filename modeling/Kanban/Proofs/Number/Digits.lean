import Kanban.Number.Digits
import Kanban.Text.Blank
import Kanban.Text.Digit
import Kanban.Tree.Written

namespace Kanban

namespace Text

section

variable {c : Char}

theorem digitValue?_of_isDigit (digit : c.isDigit = true) :
    digitValue? c = some (c.toNat - '0'.toNat) := by
  obtain ⟨least, most⟩ : 48 ≤ c.toNat ∧ c.toNat ≤ 57 := by
    simpa [Char.isDigit, UInt32.le_iff_toNat_le] using digit
  have zeros : digitZeros = 48 :: digitZeros.tail := rfl
  have first : (decide (48 ≤ c.toNat) && decide (c.toNat < 48 + 10)) = true := by
    simp only [Bool.and_eq_true, decide_eq_true_eq]
    omega
  rw [digitValue?, zeros, List.find?_cons]
  simp only [first]
  rfl

theorem isDigit_of_isDigit (digit : c.isDigit = true) : isDigit c = true := by
  rw [isDigit, digitValue?_of_isDigit digit]
  rfl

theorem not_isBlank_of_isDigit (digit : c.isDigit = true) : isBlank c = false := by
  obtain ⟨least, most⟩ : 48 ≤ c.toNat ∧ c.toNat ≤ 57 := by
    simpa [Char.isDigit, UInt32.le_iff_toNat_le] using digit
  simp only [isBlank, Bool.or_eq_false_iff, Bool.and_eq_false_iff, decide_eq_false_iff_not,
    beq_eq_false_iff_ne]
  omega

end

theorem isDigit_of_mem_toDigits {number : Nat} {c : Char} (member : c ∈ Nat.toDigits 10 number) :
    c.isDigit = true :=
  Nat.isDigit_of_mem_toDigits (by decide) (by decide) member

theorem trim_toDigits (number : Nat) : trim (Nat.toDigits 10 number) = Nat.toDigits 10 number :=
  trim_of_no_blank fun _ member => not_isBlank_of_isDigit (isDigit_of_mem_toDigits member)

theorem digitsValue_toDigits (number : Nat) : digitsValue (Nat.toDigits 10 number) = number := by
  have reads (digits : List Char) (isDigits : ∀ c ∈ digits, c.isDigit = true) (start : Nat) :
      digits.foldl (fun value c => 10 * value + (digitValue? c).getD 0) start =
        Nat.ofDigitChars 10 digits start := by
    rw [Nat.ofDigitChars_eq_foldl]
    induction digits generalizing start with
    | nil => rfl
    | cons c rest ih =>
        simp only [List.mem_cons, forall_eq_or_imp] at isDigits
        simp only [List.foldl_cons, digitValue?_of_isDigit isDigits.1, Option.getD_some]
        exact ih isDigits.2 _
  rw [digitsValue, reads _ (fun _ => isDigit_of_mem_toDigits), Nat.ofDigitChars_ten_toDigits]

end Text

theorem Number.isWritable_iff_length {number : Nat} :
    isWritable number = true ↔ (Nat.toDigits 10 number).length ≤ mostDigits := by
  have positive : 0 < mostDigits := by decide
  rw [isWritable, Int.natAbs_natCast, decide_eq_true_eq]
  unfold tooLong
  -- The limit becomes a variable, so that nobody computes the power.
  generalize mostDigits = most at positive ⊢
  exact (Nat.length_toDigits_le_iff (by decide) positive).symm

theorem Number.not_isWritable_tooLong : isWritable tooLong = false := by
  rw [isWritable, Int.natAbs_natCast]
  exact decide_eq_false (Nat.lt_irrefl tooLong)

theorem Tree.toList_intText (number : Nat) :
    (intText number).toList = Nat.toDigits 10 number := by
  rw [← Nat.toList_repr]
  rfl

end Kanban
