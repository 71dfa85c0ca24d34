import Kanban.Proofs.Template.Readable

namespace Kanban

def Arguments.Plain (arguments : Arguments) : Prop :=
  ∀ name value, arguments.value? name = some value → '~' ∉ value.shown.toList

theorem Arguments.plain_single {name : String} {value : Tree} (plain : '~' ∉ value.shown.toList) :
    Arguments.Plain [(name, value)] := by
  intro other found known
  obtain ⟨pair, located, rfl⟩ := Option.map_eq_some_iff.mp known
  cases List.mem_singleton.mp (List.mem_of_find?_eq_some located)
  exact plain

namespace Template

/-- The pieces in the place of a piece once the known names have their values. -/
def Piece.settled (arguments : Arguments) : Piece → List Piece
  | letter c => [letter c]
  | slot name =>
      match arguments.value? (String.ofList name) with
      | some value => value.shown.toList.map letter
      | none => [slot name]

def settled (arguments : Arguments) (row : List Piece) : List Piece :=
  row.flatMap (Piece.settled arguments)

variable {arguments : Arguments}

@[simp] theorem settled_nil : settled arguments [] = [] := rfl

@[simp] theorem settled_letter (c : Char) (row : List Piece) :
    settled arguments (.letter c :: row) = .letter c :: settled arguments row := by
  simp [settled, Piece.settled]

theorem settled_slot_known {name : List Char} {value : Tree}
    (known : arguments.value? (String.ofList name) = some value) (row : List Piece) :
    settled arguments (.slot name :: row) =
      value.shown.toList.map .letter ++ settled arguments row := by
  simp [settled, Piece.settled, known]

theorem settled_slot_unknown {name : List Char}
    (unknown : arguments.value? (String.ofList name) = none) (row : List Piece) :
    settled arguments (.slot name :: row) = .slot name :: settled arguments row := by
  simp [settled, Piece.settled, unknown]

@[simp] theorem spelled_append (row others : List Piece) :
    spelled (row ++ others) = spelled row ++ spelled others := by
  simp [spelled]

@[simp] theorem spelled_letters (chars : List Char) : spelled (chars.map .letter) = chars := by
  induction chars with
  | nil => rfl
  | cons c rest ih => simp [Piece.written, ih]

theorem spelled_settled (row : List Piece) :
    spelled (settled arguments row) = row.flatMap (Piece.filled arguments) := by
  induction row with
  | nil => rfl
  | cons piece row ih =>
      cases piece with
      | letter c => simp [ih, Piece.written, Piece.filled]
      | slot name =>
          cases known : arguments.value? (String.ofList name) with
          | none => simp [settled_slot_unknown known, ih, Piece.filled, known]
          | some value => simp [settled_slot_known known, ih, Piece.filled, known]

/-- Filling brings no tilde to the front of a text. -/
theorem head_settled {row : List Piece} (front : (spelled row).head? ≠ some '~') :
    (spelled (settled arguments row)).head? ≠ some '~' := by
  cases row with
  | nil => exact front
  | cons piece row =>
      cases piece with
      | letter c => simpa [Piece.written] using front
      | slot name => simp [Piece.written, marker] at front

/-- A line without a marker is a line of letters, so filling leaves it without a marker. -/
theorem untilMarker?_settled {row : List Piece} (unclosed : untilMarker? (spelled row) = none) :
    untilMarker? (spelled (settled arguments row)) = none := by
  induction row with
  | nil => exact unclosed
  | cons piece row ih =>
      cases piece with
      | slot name => simp [Piece.written, marker, untilMarker?] at unclosed
      | letter c =>
          rw [settled_letter, spelled_cons]
          rw [spelled_cons] at unclosed
          simp only [Piece.written, List.singleton_append] at unclosed ⊢
          by_cases newline : c = '\n'
          · subst newline
            rw [untilMarker?.eq_3 _ _ (by simp), if_pos rfl]
          · have single : c = '~' → (spelled row).head? ≠ some '~' := by
              rintro rfl again
              obtain ⟨tail, same⟩ := List.head?_eq_some_iff.mp again
              simp [same, untilMarker?] at unclosed
            rw [untilMarker?_step newline single, Option.map_eq_none_iff] at unclosed
            rw [untilMarker?_step newline fun tilde => head_settled (single tilde), ih unclosed]
            rfl

theorem name?_settled {row : List Piece} (readable : Readable row)
    (unclosed : name? (spelled row) = none) : name? (spelled (settled arguments row)) = none := by
  cases readable with
  | nil => exact unclosed
  | @slot name row named _ =>
      have onLine : '\n' ∉ '~' :: name := by simp [named.onLine]
      have closes : (untilMarker? ('~' :: name ++ marker ++ spelled row)).isSome :=
        untilMarker?_isSome onLine
      simp only [spelled_cons, Piece.written, marker, List.cons_append, List.nil_append,
        List.append_assoc] at unclosed closes
      simp [name?, Option.isSome_iff_ne_none.mp closes] at unclosed
  | @letter c row _ _ =>
      rw [settled_letter, spelled_cons]
      rw [spelled_cons] at unclosed
      simp only [Piece.written, List.singleton_append] at unclosed ⊢
      by_cases newline : c = '\n'
      · simp [name?, newline]
      · rw [name?, if_neg newline, Option.map_eq_none_iff] at unclosed
        rw [name?, if_neg newline, untilMarker?_settled unclosed]
        rfl

/-- A letter that opens no placeholder opens none once names have their values. -/
theorem not_opens_settled {c : Char} {row : List Piece} (readable : Readable row)
    (closed : ¬ Opens (c :: spelled row)) : ¬ Opens (c :: spelled (settled arguments row)) := by
  rintro ⟨tail, same, opened⟩
  obtain ⟨rfl, second⟩ := List.cons.inj same
  by_cases front : (spelled row).head? = some '~'
  · -- The second tilde is a letter: a placeholder in its place would have been opened earlier.
    cases readable with
    | nil => simp at front
    | @slot name row named _ =>
        have closes : (untilMarker? (name ++ marker ++ spelled row)).isSome :=
          untilMarker?_isSome named.onLine
        refine closed ⟨'~' :: (name ++ marker ++ spelled row), ?_, ?_⟩
        · simp [Piece.written, marker]
        · simpa [name?] using closes
    | @letter d row _ onward =>
        obtain rfl : d = '~' := by simpa [Piece.written] using front
        have unclosed : name? (spelled row) = none := by
          refine Option.not_isSome_iff_eq_none.mp fun opens => closed ⟨spelled row, ?_, opens⟩
          simp [Piece.written]
        simp only [settled_letter, spelled_cons, Piece.written, List.singleton_append,
          List.cons.injEq, true_and] at second
        rw [← second, name?_settled onward unclosed] at opened
        cases opened
  · exact head_settled front (by rw [second]; rfl)

theorem readable_letters {chars : List Char} {row : List Piece} (plain : '~' ∉ chars)
    (readable : Readable row) : Readable (chars.map .letter ++ row) := by
  induction chars with
  | nil => exact readable
  | cons c rest ih =>
      simp only [List.mem_cons, not_or] at plain
      refine .letter ?_ (ih plain.2)
      rintro ⟨tail, same, _⟩
      exact plain.1 (List.cons.inj same).1.symm

theorem readable_settled (plain : arguments.Plain) {row : List Piece} (readable : Readable row) :
    Readable (settled arguments row) := by
  induction readable with
  | nil => exact .nil
  | letter closed onward ih =>
      rw [settled_letter]
      exact .letter (not_opens_settled onward closed) ih
  | @slot name row named onward ih =>
      cases known : arguments.value? (String.ofList name) with
      | none =>
          rw [settled_slot_unknown known]
          exact .slot named ih
      | some value =>
          rw [settled_slot_known known]
          exact readable_letters (plain _ value known) ih

theorem pieces_filled (plain : arguments.Plain) (chars : List Char) :
    pieces ((pieces chars).flatMap (Piece.filled arguments)) =
      settled arguments (pieces chars) := by
  rw [← spelled_settled]
  exact pieces_spelled (readable_settled plain (readable_pieces chars))

end Template

end Kanban
