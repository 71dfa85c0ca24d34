namespace Kanban.Text

def charsAtMost : List Char → List Char → Bool
  | [], _ => true
  | _ :: _, [] => false
  | c :: rest, d :: others =>
      c.toNat < d.toNat || (c.toNat == d.toNat && charsAtMost rest others)

def atMost (s t : String) : Bool :=
  charsAtMost s.toList t.toList

def sortedOnce (texts : List String) : List String :=
  (texts.mergeSort atMost).eraseDups

theorem charsAtMost_total (left right : List Char) :
    (charsAtMost left right || charsAtMost right left) = true := by
  induction left generalizing right with
  | nil => rfl
  | cons c rest ih =>
      cases right with
      | nil => rfl
      | cons d others =>
          have tail := ih others
          simp only [charsAtMost, Bool.or_eq_true, Bool.and_eq_true, decide_eq_true_eq,
            beq_iff_eq] at tail ⊢
          rcases Nat.lt_trichotomy c.toNat d.toNat with less | same | greater
          · exact Or.inl (Or.inl less)
          · rcases tail with restBefore | othersBefore
            · exact Or.inl (Or.inr ⟨same, restBefore⟩)
            · exact Or.inr (Or.inr ⟨same.symm, othersBefore⟩)
          · exact Or.inr (Or.inl greater)

theorem charsAtMost_trans {left middle right : List Char}
    (first : charsAtMost left middle = true) (second : charsAtMost middle right = true) :
    charsAtMost left right = true := by
  induction left generalizing middle right with
  | nil => rfl
  | cons c rest ih =>
      cases middle with
      | nil => simp [charsAtMost] at first
      | cons d others =>
          cases right with
          | nil => simp [charsAtMost] at second
          | cons e more =>
              simp only [charsAtMost, Bool.or_eq_true, Bool.and_eq_true, decide_eq_true_eq,
                beq_iff_eq] at first second ⊢
              rcases first with before | ⟨same, restBefore⟩
              · rcases second with after | ⟨alike, _⟩
                · exact Or.inl (by omega)
                · exact Or.inl (by omega)
              · rcases second with after | ⟨alike, moreBefore⟩
                · exact Or.inl (by omega)
                · exact Or.inr ⟨by omega, ih restBefore moreBefore⟩

theorem charsAtMost_antisymm {left right : List Char}
    (first : charsAtMost left right = true) (second : charsAtMost right left = true) :
    left = right := by
  induction left generalizing right with
  | nil =>
      cases right with
      | nil => rfl
      | cons d others => simp [charsAtMost] at second
  | cons c rest ih =>
      cases right with
      | nil => simp [charsAtMost] at first
      | cons d others =>
          simp only [charsAtMost, Bool.or_eq_true, Bool.and_eq_true, decide_eq_true_eq,
            beq_iff_eq] at first second
          rcases first with before | ⟨same, restBefore⟩
          · rcases second with after | ⟨alike, _⟩ <;> omega
          · rcases second with after | ⟨_, othersBefore⟩
            · omega
            · rw [Char.toNat_inj.mp same, ih restBefore othersBefore]

end Kanban.Text
