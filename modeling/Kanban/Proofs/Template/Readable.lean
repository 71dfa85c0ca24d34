import Kanban.Template

/-!
Which rows of pieces a text can be cut into.  A row is readable if no letter of it opens a
placeholder together with what follows it, and every name in it ends at its closing marker.  Cutting
a text gives a readable row, and a readable row is what its own text is cut into.
-/
namespace Kanban.Template

def spelled (row : List Piece) : List Char :=
  row.flatMap Piece.written

@[simp] theorem spelled_nil : spelled [] = [] := rfl

@[simp] theorem spelled_cons (piece : Piece) (row : List Piece) :
    spelled (piece :: row) = piece.written ++ spelled row := by
  simp [spelled]

theorem untilMarker?_step {c : Char} {chars : List Char} (onLine : c ≠ '\n')
    (single : c = '~' → chars.head? ≠ some '~') :
    untilMarker? (c :: chars) =
      (untilMarker? chars).map fun (name, after) => (c :: name, after) := by
  rw [untilMarker?.eq_3 c chars, if_neg onLine]
  rintro rest tilde rfl
  exact single tilde rfl

theorem untilMarker?_inv {chars name after : List Char}
    (found : untilMarker? chars = some (name, after)) :
    (name = [] ∧ chars = '~' :: '~' :: after) ∨
      ∃ c rest inner, name = c :: inner ∧ chars = c :: rest ∧ c ≠ '\n' ∧
        (c = '~' → rest.head? ≠ some '~') ∧ untilMarker? rest = some (inner, after) := by
  cases chars using untilMarker?.fun_cases with
  | case1 rest =>
      left
      simp only [untilMarker?, Option.some.injEq, Prod.mk.injEq] at found
      obtain ⟨rfl, rfl⟩ := found
      exact ⟨rfl, rfl⟩
  | case2 => cases found
  | case3 rest _ => simp [untilMarker?] at found
  | case4 c rest notMarker onLine =>
      right
      rw [untilMarker?.eq_3 c rest notMarker, if_neg onLine] at found
      obtain ⟨⟨inner, tail⟩, located, equal⟩ := Option.map_eq_some_iff.mp found
      cases equal
      refine ⟨c, rest, inner, rfl, rfl, onLine, ?_, located⟩
      intro tilde again
      obtain ⟨tail, same⟩ := List.head?_eq_some_iff.mp again
      exact notMarker tail tilde same

/-- What a name ends at depends on the name alone, not on what comes after its marker. -/
theorem untilMarker?_split {chars name after : List Char}
    (found : untilMarker? chars = some (name, after)) :
    chars = name ++ marker ++ after ∧
      ∀ other, untilMarker? (name ++ marker ++ other) = some (name, other) := by
  induction name generalizing chars with
  | nil =>
      obtain ⟨_, rfl⟩ | ⟨_, _, _, impossible, _⟩ := untilMarker?_inv found
      · exact ⟨rfl, fun other => rfl⟩
      · cases impossible
  | cons c inner ih =>
      obtain ⟨impossible, _⟩ | ⟨_, rest, _, same, rfl, onLine, single, located⟩ :=
        untilMarker?_inv found
      · cases impossible
      · cases same
        obtain ⟨split, closes⟩ := ih located
        refine ⟨by simp [split], ?_⟩
        intro other
        -- The first character behind `c` is that of the name or of its marker in either text.
        have first : (inner ++ marker ++ other).head? = rest.head? := by
          cases inner <;> simp [split, marker]
        rw [← first] at single
        rw [List.cons_append, List.cons_append, untilMarker?_step onLine single, closes other]
        rfl

theorem untilMarker?_isSome {chars after : List Char} (onLine : '\n' ∉ chars) :
    (untilMarker? (chars ++ marker ++ after)).isSome := by
  induction chars with
  | nil => rfl
  | cons c rest ih =>
      simp only [List.mem_cons, not_or] at onLine
      by_cases double : c = '~' ∧ (rest ++ marker ++ after).head? = some '~'
      · obtain ⟨rfl, again⟩ := double
        obtain ⟨tail, same⟩ := List.head?_eq_some_iff.mp again
        rw [List.cons_append, List.cons_append, same]
        rfl
      · rw [List.cons_append, List.cons_append,
          untilMarker?_step (Ne.symm onLine.1) fun tilde again => double ⟨tilde, again⟩]
        simpa using ih onLine.2

theorem untilMarker?_onLine {chars name after : List Char}
    (found : untilMarker? chars = some (name, after)) : '\n' ∉ name := by
  induction name generalizing chars with
  | nil => simp
  | cons c inner ih =>
      obtain ⟨impossible, _⟩ | ⟨_, _, _, same, rfl, onLine, _, located⟩ := untilMarker?_inv found
      · cases impossible
      · cases same
        simp [ih located, Ne.symm onLine]

/-- A name that an opening marker can start and that ends at the marker behind it. -/
structure IsName (name : List Char) : Prop where
  onLine : '\n' ∉ name
  closes : ∀ after, name? (name ++ marker ++ after) = some (name, after)

theorem untilMarker?_plain {chars : List Char} (onLine : '\n' ∉ chars) (plain : '~' ∉ chars)
    (after : List Char) : untilMarker? (chars ++ marker ++ after) = some (chars, after) := by
  induction chars with
  | nil => rfl
  | cons c rest ih =>
      simp only [List.mem_cons, not_or] at onLine plain
      have single : c = '~' → (rest ++ marker ++ after).head? ≠ some '~' :=
        fun tilde => absurd tilde.symm plain.1
      rw [List.cons_append, List.cons_append, untilMarker?_step (Ne.symm onLine.1) single,
        ih onLine.2 plain.2]
      rfl

theorem IsName.of_plain {name : List Char} (given : name ≠ []) (onLine : '\n' ∉ name)
    (plain : '~' ∉ name) : IsName name := by
  refine ⟨onLine, fun after => ?_⟩
  cases name with
  | nil => exact absurd rfl given
  | cons c rest =>
      simp only [List.mem_cons, not_or] at onLine plain
      rw [List.cons_append, List.cons_append, name?, if_neg (Ne.symm onLine.1),
        untilMarker?_plain onLine.2 plain.2]
      rfl

theorem name?_split {chars name after : List Char} (found : name? chars = some (name, after)) :
    IsName name ∧ chars = name ++ marker ++ after := by
  cases chars with
  | nil => simp [name?] at found
  | cons c rest =>
      by_cases newline : c = '\n'
      · simp [name?, newline] at found
      · rw [name?, if_neg newline] at found
        obtain ⟨⟨inner, tail⟩, located, equal⟩ := Option.map_eq_some_iff.mp found
        cases equal
        obtain ⟨split, closes⟩ := untilMarker?_split located
        refine ⟨⟨?_, ?_⟩, by simp [split]⟩
        · simp [untilMarker?_onLine located, Ne.symm newline]
        · intro other
          rw [List.cons_append, List.cons_append, name?, if_neg newline, closes other]
          rfl

/-- Characters that begin with a placeholder. -/
def Opens (chars : List Char) : Prop :=
  ∃ rest, chars = '~' :: '~' :: rest ∧ (name? rest).isSome

theorem pieces_slot {rest name after : List Char} (found : name? rest = some (name, after)) :
    pieces ('~' :: '~' :: rest) = .slot name :: pieces after := by
  rw [pieces]
  split
  next other tail same =>
    rw [found] at same
    cases same
    rfl
  next missing => simp [found] at missing

theorem pieces_letter {c : Char} {rest : List Char} (closed : ¬ Opens (c :: rest)) :
    pieces (c :: rest) = .letter c :: pieces rest := by
  by_cases double : c = '~' ∧ rest.head? = some '~'
  · obtain ⟨rfl, again⟩ := double
    obtain ⟨tail, rfl⟩ := List.head?_eq_some_iff.mp again
    rw [pieces]
    split
    next name after found => exact absurd ⟨tail, rfl, by simp [found]⟩ closed
    next => rfl
  · rw [pieces.eq_3]
    rintro tail rfl rfl
    exact double ⟨rfl, rfl⟩

theorem not_opens_unclosed {rest : List Char} (unclosed : name? rest = none) :
    ¬ Opens ('~' :: '~' :: rest) := by
  rintro ⟨tail, same, opened⟩
  cases same
  simp [unclosed] at opened

inductive Readable : List Piece → Prop where
  | nil : Readable []
  | letter {c : Char} {row : List Piece} :
      ¬ Opens (c :: spelled row) → Readable row → Readable (.letter c :: row)
  | slot {name : List Char} {row : List Piece} :
      IsName name → Readable row → Readable (.slot name :: row)

theorem Readable.single (c : Char) : Readable [.letter c] := by
  refine .letter ?_ .nil
  rintro ⟨rest, same, _⟩
  cases same

theorem spelled_pieces (chars : List Char) : spelled (pieces chars) = chars := by
  induction chars using pieces.induct with
  | case1 rest name after found ih =>
      rw [pieces_slot found, spelled_cons, ih, (name?_split found).2]
      simp [Piece.written, marker]
  | case2 rest unclosed ih =>
      rw [pieces_letter (not_opens_unclosed unclosed), spelled_cons, ih]
      rfl
  | case3 => rw [pieces_nil, spelled_nil]
  | case4 c rest single ih =>
      rw [pieces.eq_3 c rest single, spelled_cons, ih]
      rfl

theorem readable_pieces (chars : List Char) : Readable (pieces chars) := by
  induction chars using pieces.induct with
  | case1 rest name after found ih =>
      rw [pieces_slot found]
      exact .slot (name?_split found).1 ih
  | case2 rest unclosed ih =>
      rw [pieces_letter (not_opens_unclosed unclosed)]
      refine .letter ?_ ih
      rw [spelled_pieces]
      exact not_opens_unclosed unclosed
  | case3 =>
      rw [pieces_nil]
      exact .nil
  | case4 c rest single ih =>
      rw [pieces.eq_3 c rest single]
      refine .letter ?_ ih
      rw [spelled_pieces]
      rintro ⟨tail, same, _⟩
      cases same
      exact single tail rfl rfl

theorem pieces_spelled {row : List Piece} (readable : Readable row) :
    pieces (spelled row) = row := by
  induction readable with
  | nil => exact pieces_nil
  | letter closed _ ih =>
      rw [spelled_cons, Piece.written, List.singleton_append, pieces_letter closed, ih]
  | @slot name row named _ ih =>
      have opened : spelled (.slot name :: row) =
          '~' :: '~' :: (name ++ marker ++ spelled row) := by
        simp [Piece.written, marker]
      rw [opened, pieces_slot (named.closes _), ih]

theorem substitute_written {text : String} {row : List Piece} (readable : Readable row)
    (written : text.toList = spelled row) (arguments : Arguments) :
    substitute arguments text = String.ofList (row.flatMap (Piece.filled arguments)) := by
  rw [substitute, written, pieces_spelled readable]

@[simp] theorem substitute_nil (text : String) : substitute [] text = text := by
  have filled : Piece.filled [] = Piece.written := by
    funext piece
    cases piece <;> rfl
  rw [substitute, filled]
  change String.ofList (spelled (pieces text.toList)) = text
  rw [spelled_pieces, String.ofList_toList]

end Kanban.Template
