namespace Kanban.Text

def isBlank (c : Char) : Bool :=
  let code := c.toNat
  (0x09 ≤ code && code ≤ 0x0d) || (0x1c ≤ code && code ≤ 0x20) || code == 0x85 || code == 0xa0 ||
    code == 0x1680 || (0x2000 ≤ code && code ≤ 0x200a) || code == 0x2028 || code == 0x2029 ||
    code == 0x202f || code == 0x205f || code == 0x3000

def trimStart (chars : List Char) : List Char :=
  chars.dropWhile isBlank

def trimEnd (chars : List Char) : List Char :=
  (chars.reverse.dropWhile isBlank).reverse

def trim (chars : List Char) : List Char :=
  trimEnd (trimStart chars)

def trimmed (s : String) : String :=
  String.ofList (trim s.toList)

def trimmedEnd (s : String) : String :=
  String.ofList (trimEnd s.toList)

/-- Adds a character in front of a list of words: a blank ends the word that follows it. -/
private def prependToWords (c : Char) (words : List (List Char)) : List (List Char) :=
  if isBlank c then
    [] :: words
  else
    match words with
    | [] => [[c]]
    | word :: rest => (c :: word) :: rest

/-- The maximal runs of characters that are not blank, in order. -/
def words (s : String) : List String :=
  ((s.toList.foldr prependToWords [[]]).filter (!·.isEmpty)).map String.ofList

/-- The parts of a text between its marks; one more than there are marks. -/
def parts (mark : Char) (chars : List Char) : List (List Char) :=
  chars.foldr
    (fun c found =>
      match found with
      | [] => [[c]]
      | first :: rest => if c == mark then [] :: first :: rest else (c :: first) :: rest)
    [[]]

@[simp] theorem trim_nil : trim [] = [] := rfl

theorem trim_of_no_blank {chars : List Char} (clean : ∀ c ∈ chars, isBlank c = false) :
    trim chars = chars := by
  have start : trimStart chars = chars := by
    cases chars with
    | nil => rfl
    | cons c rest => simp [trimStart, clean c (by simp)]
  have stop : trimEnd chars = chars := by
    unfold trimEnd
    cases reversed : chars.reverse with
    | nil => simpa using reversed.symm
    | cons c rest =>
        have member : c ∈ chars := by
          rw [← List.mem_reverse, reversed]
          simp
        simp only [List.dropWhile_cons, clean c member]
        simpa using congrArg List.reverse reversed.symm
  rw [trim, start, stop]

def IsWord (s : String) : Prop :=
  s ≠ "" ∧ ∀ c ∈ s.toList, isBlank c = false

instance (s : String) : Decidable (IsWord s) :=
  decidable_of_iff (s ≠ "" ∧ s.toList.all (!isBlank ·) = true) (by simp [IsWord])

private theorem foldr_prependToWords {word rest first : List Char} {others : List (List Char)}
    (clean : ∀ c ∈ word, isBlank c = false)
    (split : rest.foldr prependToWords [[]] = first :: others) :
    (word ++ rest).foldr prependToWords [[]] = (word ++ first) :: others := by
  induction word with
  | nil => exact split
  | cons c word ih =>
      have onward := ih fun d member => clean d (List.mem_cons_of_mem _ member)
      simp [onward, prependToWords, clean c List.mem_cons_self]

private theorem foldr_intercalate {parts : List String} (nonempty : parts ≠ [])
    (plain : ∀ part ∈ parts, IsWord part) :
    (" ".intercalate parts).toList.foldr prependToWords [[]] = parts.map String.toList := by
  induction parts with
  | nil => exact absurd rfl nonempty
  | cons part rest ih =>
      have clean := (plain part List.mem_cons_self).2
      cases rest with
      | nil => simpa using foldr_prependToWords clean (List.foldr_nil ..)
      | cons next rest =>
          have onward := ih (List.cons_ne_nil _ _) fun other member =>
            plain other (List.mem_cons_of_mem _ member)
          have parted : (' ' :: (" ".intercalate (next :: rest)).toList).foldr
              prependToWords [[]] = [] :: (next :: rest).map String.toList := by
            rw [List.foldr_cons, onward]
            rfl
          rw [String.intercalate_cons_cons, String.toList_append, String.toList_append,
            List.append_assoc]
          simpa using foldr_prependToWords clean parted

/-- Words with a space between each two of them are read back. -/
theorem words_intercalate {parts : List String} (plain : ∀ part ∈ parts, IsWord part) :
    words (" ".intercalate parts) = parts := by
  by_cases none : parts = []
  · subst none
    rfl
  · have kept : (parts.map String.toList).filter (!·.isEmpty) = parts.map String.toList := by
      rw [List.filter_eq_self]
      intro chars member
      obtain ⟨part, present, rfl⟩ := List.mem_map.mp member
      simpa using (plain part present).1
    rw [words, foldr_intercalate none plain, kept, List.map_map]
    simp

end Kanban.Text
