import Kanban.Text.Blank
import Mathlib.Data.List.DropRight

namespace Kanban.Text

variable {chars part front back : List Char}

structure TrimsTo (chars part : List Char) : Prop where
  around : ∃ front back, chars = front ++ part ++ back ∧
    (∀ c ∈ front, isBlank c = true) ∧ ∀ c ∈ back, isBlank c = true
  first : ∀ c ∈ part.head?, isBlank c = false
  last : ∀ c ∈ part.getLast?, isBlank c = false

theorem trimStart_append (blank : ∀ c ∈ front, isBlank c = true) :
    trimStart (front ++ chars) = trimStart chars :=
  List.dropWhile_append_of_pos blank

theorem trimEnd_append (blank : ∀ c ∈ back, isBlank c = true) :
    trimEnd (chars ++ back) = trimEnd chars := by
  have reversed : ∀ c ∈ back.reverse, isBlank c = true := fun c member =>
    blank c (List.mem_reverse.mp member)
  rw [trimEnd, List.reverse_append, List.dropWhile_append_of_pos reversed]
  rfl

theorem trimEnd_of_last (last : ∀ c ∈ part.getLast?, isBlank c = false) : trimEnd part = part := by
  apply List.rdropWhile_eq_self_iff.mpr
  intro given
  rw [Bool.not_eq_true]
  exact last _ (List.getLast_mem_getLast? given)

theorem TrimsTo.trim (trims : TrimsTo chars part) : trim chars = part := by
  obtain ⟨⟨front, back, rfl, before, behind⟩, first, last⟩ := trims
  rw [Text.trim, List.append_assoc, trimStart_append before]
  cases part with
  | nil =>
      have nothing : trimStart back = [] := List.dropWhile_eq_nil_iff.mpr behind
      rw [List.nil_append, nothing]
      rfl
  | cons c rest =>
      have started : trimStart (c :: rest ++ back) = c :: rest ++ back := by
        rw [trimStart, List.cons_append, List.dropWhile_cons_of_neg]
        simpa using first c rfl
      rw [started, trimEnd_append behind]
      exact trimEnd_of_last last

theorem trimsTo_trim (chars : List Char) : TrimsTo chars (trim chars) where
  around := by
    refine ⟨chars.takeWhile isBlank, (trimStart chars).rtakeWhile isBlank, ?_, ?_, ?_⟩
    · have ended : trim chars ++ (trimStart chars).rtakeWhile isBlank = trimStart chars :=
        List.rdropWhile_append_rtakeWhile
      rw [List.append_assoc, ended]
      exact List.takeWhile_append_dropWhile.symm
    · intro c member
      exact List.mem_takeWhile_imp member
    · intro c member
      exact List.mem_rtakeWhile_imp member
  first := by
    intro c head
    obtain ⟨cut, whole⟩ : trim chars <+: trimStart chars := List.rdropWhile_prefix ..
    have started : (chars.dropWhile isBlank).head? = some c := by
      change (trimStart chars).head? = some c
      rw [← whole, List.head?_append, Option.mem_def.mp head]
      rfl
    have solid := List.head?_dropWhile_not isBlank chars
    rwa [started] at solid
  last := by
    intro c final
    have given : trim chars ≠ [] := by
      intro nothing
      simp [nothing] at final
    have ended : ¬ isBlank ((trim chars).getLast given) = true := List.rdropWhile_last_not _ _ given
    rw [List.getLast?_eq_some_getLast given] at final
    cases final
    simpa using ended

theorem trim_eq_iff : trim chars = part ↔ TrimsTo chars part := by
  constructor
  · rintro rfl
    exact trimsTo_trim chars
  · exact TrimsTo.trim

theorem trimsTo_self {s : String} (kept : trimmed s = s) : TrimsTo s.toList s.toList := by
  apply trim_eq_iff.mp
  rw [trimmed] at kept
  simpa using congrArg String.toList kept

theorem mem_trim {c : Char} (solid : isBlank c = false) (member : c ∈ chars) : c ∈ trim chars := by
  obtain ⟨front, back, split, before, behind⟩ := (trimsTo_trim chars).around
  rw [split, List.mem_append, List.mem_append] at member
  rcases member with (left | inside) | right
  · simp [before c left] at solid
  · exact inside
  · simp [behind c right] at solid

theorem trim_ne_nil_iff : trim chars ≠ [] ↔ ∃ c ∈ chars, isBlank c = false := by
  constructor
  · intro given
    by_contra none
    apply given
    apply trim_eq_iff.mpr
    refine ⟨⟨chars, [], by simp, ?_, nofun⟩, nofun, nofun⟩
    intro c member
    exact Bool.of_not_eq_false fun solid => none ⟨c, member, solid⟩
  · rintro ⟨c, member, solid⟩
    exact List.ne_nil_of_mem (mem_trim solid member)

end Kanban.Text
