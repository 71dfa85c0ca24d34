import Kanban.Proofs.Arguments.LastValues
import Kanban.Proofs.Text.Trimming

namespace Kanban.Arguments

variable {word : String} {front behind : List Char} {words : List String}

/-- The two parts of a word, in front of its first equals sign and behind it. -/
def Parts (word : String) (front behind : List Char) : Prop :=
  word.toList = front ++ '=' :: behind ∧ '=' ∉ front

def IsArgument (word : String) : Prop :=
  ∃ front behind, Parts word front behind ∧ ∃ c ∈ front, Text.isBlank c = false

def Gives (word : String) (pair : String × String) : Prop :=
  ∃ front behind, Parts word front behind ∧ (∃ c ∈ front, Text.isBlank c = false) ∧
    Text.TrimsTo front pair.1.toList ∧ Text.TrimsTo behind pair.2.toList

def fault (word : String) : ArgumentTrouble :=
  if '=' ∈ word.toList then .nameless word else .shapeless word

def written (pair : String × String) : String :=
  pair.1 ++ "=" ++ pair.2

/-! One word. -/

theorem exists_parts (sign : '=' ∈ word.toList) : ∃ front behind, Parts word front behind :=
  List.eq_append_cons_of_mem sign

theorem splitWord_of_parts (parts : Parts word front behind) :
    splitWord word =
      if Text.trim front = [] then .error (.nameless word)
      else .ok (String.ofList (Text.trim front), String.ofList (Text.trim behind)) := by
  obtain ⟨split, unsigned⟩ := parts
  have sign : '=' ∈ word.toList := by simp [split]
  have plain : ∀ c ∈ front, (c != '=') = true := by
    intro c member
    exact bne_iff_ne.mpr fun same => unsigned (same ▸ member)
  have first : word.toList.takeWhile (· != '=') = front := by
    rw [split, List.takeWhile_append_of_pos plain]
    simp
  have second : (word.toList.dropWhile (· != '=')).drop 1 = behind := by
    rw [split, List.dropWhile_append_of_pos plain]
    simp
  simp only [splitWord, sign, if_true, first, second, List.isEmpty_iff]

theorem splitWord_gives {pair : String × String} (gives : Gives word pair) :
    splitWord word = .ok pair := by
  obtain ⟨front, behind, parts, solid, named, valued⟩ := gives
  rw [splitWord_of_parts parts, if_neg (Text.trim_ne_nil_iff.mpr solid), named.trim, valued.trim,
    String.ofList_toList, String.ofList_toList]

theorem IsArgument.gives (argument : IsArgument word) : ∃ pair, Gives word pair := by
  obtain ⟨front, behind, parts, solid⟩ := argument
  refine ⟨(String.ofList (Text.trim front), String.ofList (Text.trim behind)), front, behind, parts,
    solid, ?_, ?_⟩
  · rw [String.toList_ofList]
    exact Text.trimsTo_trim front
  · rw [String.toList_ofList]
    exact Text.trimsTo_trim behind

theorem Gives.isArgument {pair : String × String} (gives : Gives word pair) : IsArgument word := by
  obtain ⟨front, behind, parts, solid, _⟩ := gives
  exact ⟨front, behind, parts, solid⟩

theorem splitWord_fault (notArgument : ¬ IsArgument word) :
    splitWord word = .error (fault word) := by
  by_cases sign : '=' ∈ word.toList
  · obtain ⟨front, behind, parts⟩ := exists_parts sign
    have nothing : Text.trim front = [] := by
      by_contra given
      exact notArgument ⟨front, behind, parts, Text.trim_ne_nil_iff.mp given⟩
    rw [splitWord_of_parts parts, if_pos nothing, fault, if_pos sign]
  · simp only [splitWord, fault, sign, if_false]

/-! Words in a row. -/

theorem addWords_gives {arguments : Arguments} {pair : String × String} (gives : Gives word pair)
    (words : List String) :
    addWords arguments (word :: words) =
      addWords (arguments.put pair.1 (.text pair.2)) words := by
  rw [addWords, splitWord_gives gives]

theorem addWords_fault (arguments : Arguments) (notArgument : ¬ IsArgument word)
    (words : List String) :
    addWords arguments (word :: words) = .error (fault word) := by
  rw [addWords, splitWord_fault notArgument]

theorem addWords_collects {arguments : Arguments} {before pairs : List (String × String)}
    (collected : arguments.Collects before) (gives : List.Forall₂ Gives words pairs) :
    ∃ others, addWords arguments words = .ok others ∧ others.Collects (before ++ pairs) := by
  induction gives generalizing arguments before with
  | nil => exact ⟨arguments, rfl, by simpa using collected⟩
  | @cons word pair words pairs first _ ih =>
      obtain ⟨others, added, collected⟩ := ih (collected.put pair.1 pair.2)
      refine ⟨others, ?_, by simpa using collected⟩
      rw [addWords_gives first]
      exact added

theorem addWords_stops {before after : List String} (fine : ∀ earlier ∈ before, IsArgument earlier)
    (notArgument : ¬ IsArgument word) (arguments : Arguments) :
    addWords arguments (before ++ word :: after) = .error (fault word) := by
  induction before generalizing arguments with
  | nil => exact addWords_fault arguments notArgument after
  | cons earlier before ih =>
      obtain ⟨pair, gives⟩ := (fine earlier List.mem_cons_self).gives
      rw [List.cons_append, addWords_gives gives]
      exact ih (fun other member => fine other (List.mem_cons_of_mem _ member)) _

theorem exists_pairs (fine : ∀ word ∈ words, IsArgument word) :
    ∃ pairs, List.Forall₂ Gives words pairs := by
  induction words with
  | nil => exact ⟨[], .nil⟩
  | cons word words ih =>
      obtain ⟨pair, gives⟩ := (fine word List.mem_cons_self).gives
      obtain ⟨pairs, onward⟩ := ih fun other member => fine other (List.mem_cons_of_mem _ member)
      exact ⟨pair :: pairs, .cons gives onward⟩

theorem isArgument_of_pairs {pairs : List (String × String)}
    (gives : List.Forall₂ Gives words pairs) : ∀ word ∈ words, IsArgument word := by
  induction gives with
  | nil => exact nofun
  | cons first _ ih =>
      intro word member
      rcases List.mem_cons.mp member with rfl | later
      · exact first.isArgument
      · exact ih word later

theorem exists_first_fault (amiss : ¬ ∀ word ∈ words, IsArgument word) :
    ∃ before word after, words = before ++ word :: after ∧
      (∀ earlier ∈ before, IsArgument earlier) ∧ ¬ IsArgument word := by
  induction words with
  | nil => exact absurd nofun amiss
  | cons word words ih =>
      by_cases argument : IsArgument word
      · have later : ¬ ∀ word ∈ words, IsArgument word := by
          intro fine
          exact amiss (List.forall_mem_cons.mpr ⟨argument, fine⟩)
        obtain ⟨before, other, after, rfl, fine, notArgument⟩ := ih later
        exact ⟨word :: before, other, after, rfl, List.forall_mem_cons.mpr ⟨argument, fine⟩,
          notArgument⟩
      · exact ⟨[], word, words, rfl, nofun, argument⟩

theorem ofWords_ok_iff {arguments : Arguments} :
    ofWords words = .ok arguments ↔
      ∃ pairs, List.Forall₂ Gives words pairs ∧ arguments.Collects pairs := by
  constructor
  · intro read
    have fine : ∀ word ∈ words, IsArgument word := by
      by_contra amiss
      obtain ⟨before, word, after, rfl, fine, notArgument⟩ := exists_first_fault amiss
      rw [ofWords, addWords_stops fine notArgument] at read
      cases read
    obtain ⟨pairs, gives⟩ := exists_pairs fine
    obtain ⟨others, added, collected⟩ := addWords_collects .nil gives
    rw [ofWords, added] at read
    cases read
    exact ⟨pairs, gives, collected⟩
  · rintro ⟨pairs, gives, collected⟩
    obtain ⟨others, added, again⟩ := addWords_collects .nil gives
    rw [ofWords, added, again.unique collected]

theorem ofWords_error_iff {trouble : ArgumentTrouble} :
    ofWords words = .error trouble ↔
      ∃ before word after, words = before ++ word :: after ∧
        (∀ earlier ∈ before, IsArgument earlier) ∧ ¬ IsArgument word ∧ trouble = fault word := by
  constructor
  · intro read
    by_cases fine : ∀ word ∈ words, IsArgument word
    · obtain ⟨pairs, gives⟩ := exists_pairs fine
      obtain ⟨others, added, _⟩ := addWords_collects .nil gives
      rw [ofWords, added] at read
      cases read
    · obtain ⟨before, word, after, rfl, fine, notArgument⟩ := exists_first_fault fine
      rw [ofWords, addWords_stops fine notArgument] at read
      cases read
      exact ⟨before, word, after, rfl, fine, notArgument, rfl⟩
  · rintro ⟨before, word, after, rfl, fine, notArgument, rfl⟩
    exact addWords_stops fine notArgument []

theorem fault_message (word : String) :
    ∃ complaint : String, (fault word).message = s!"argument '{word}' {complaint}" := by
  unfold fault
  split
  · refine ⟨"has an empty name", ?_⟩
    simp only [ArgumentTrouble.message, String.append_assoc]
    rfl
  · refine ⟨"should look like key=value", ?_⟩
    simp only [ArgumentTrouble.message, String.append_assoc]
    rfl

theorem ofWords_append {more : List String} {arguments others : Arguments}
    (read : ofWords words = .ok arguments) (onward : ofWords more = .ok others) :
    ofWords (words ++ more) = .ok (arguments.updated others) := by
  obtain ⟨pairs, gives, collected⟩ := ofWords_ok_iff.mp read
  obtain ⟨later, givesMore, added⟩ := ofWords_ok_iff.mp onward
  apply ofWords_ok_iff.mpr
  exact ⟨pairs ++ later, List.rel_append gives givesMore, collected.updated added⟩

/-! Words that are written from names and values. -/

structure Writable (pair : String × String) : Prop where
  named : pair.1 ≠ ""
  unsigned : '=' ∉ pair.1.toList
  nameTrimmed : Text.trimmed pair.1 = pair.1
  valueTrimmed : Text.trimmed pair.2 = pair.2

theorem Writable.gives {pair : String × String} (writable : Writable pair) :
    Gives (written pair) pair := by
  obtain ⟨named, unsigned, nameTrimmed, valueTrimmed⟩ := writable
  refine ⟨pair.1.toList, pair.2.toList, ⟨?_, unsigned⟩, ?_, Text.trimsTo_self nameTrimmed,
    Text.trimsTo_self valueTrimmed⟩
  · simp [written]
  · apply Text.trim_ne_nil_iff.mp
    intro nothing
    rw [Text.trimmed, nothing] at nameTrimmed
    exact named nameTrimmed.symm

theorem ofWords_written {pairs : List (String × String)} (differ : (pairs.map (·.1)).Nodup)
    (writable : ∀ pair ∈ pairs, Writable pair) :
    ofWords (pairs.map written) = .ok (pairs.map fun pair => (pair.1, .text pair.2)) := by
  have gives : List.Forall₂ Gives (pairs.map written) pairs := by
    rw [List.forall₂_map_left_iff, List.forall₂_same]
    intro pair member
    exact (writable pair member).gives
  exact ofWords_ok_iff.mpr ⟨pairs, gives, .of_nodup differ⟩

/-- Which words are accepted, what they give and which one is to blame if they are not.  What words
give in two goes is what the first of them give, updated with what the others give, and words that
are written from names and values give these back. -/
theorem words_are_read_in_order (words : List String) :
    ((∃ arguments, ofWords words = .ok arguments) ↔ ∀ word ∈ words, IsArgument word) ∧
      (∀ arguments, ofWords words = .ok arguments ↔
        ∃ pairs, List.Forall₂ Gives words pairs ∧ arguments.Collects pairs) ∧
      (∀ trouble, ofWords words = .error trouble ↔
        ∃ before word after, words = before ++ word :: after ∧
          (∀ earlier ∈ before, IsArgument earlier) ∧ ¬ IsArgument word ∧ trouble = fault word ∧
          ∃ complaint : String, trouble.message = s!"argument '{word}' {complaint}") ∧
      (∀ more arguments others, ofWords words = .ok arguments → ofWords more = .ok others →
        ofWords (words ++ more) = .ok (arguments.updated others)) ∧
      ∀ pairs : List (String × String), (pairs.map (·.1)).Nodup →
        (∀ pair ∈ pairs, Writable pair) →
        ofWords (pairs.map written) = .ok (pairs.map fun pair => (pair.1, .text pair.2)) := by
  refine ⟨?_, fun arguments => ofWords_ok_iff, ?_, ?_, ?_⟩
  · constructor
    · rintro ⟨arguments, read⟩
      obtain ⟨pairs, gives, _⟩ := ofWords_ok_iff.mp read
      exact isArgument_of_pairs gives
    · intro fine
      obtain ⟨pairs, gives⟩ := exists_pairs fine
      obtain ⟨arguments, read, _⟩ := addWords_collects .nil gives
      exact ⟨arguments, read⟩
  · intro trouble
    rw [ofWords_error_iff]
    constructor
    · rintro ⟨before, word, after, split, fine, notArgument, rfl⟩
      exact ⟨before, word, after, split, fine, notArgument, rfl, fault_message word⟩
    · rintro ⟨before, word, after, split, fine, notArgument, same, _⟩
      exact ⟨before, word, after, split, fine, notArgument, same⟩
  · intro more arguments others read onward
    exact ofWords_append read onward
  · intro pairs differ writable
    exact ofWords_written differ writable

/-- A name that comes up again keeps its first place, and a value may hold more equals signs. -/
theorem words_are_read_in_order_of_repeated :
    (ofWords ["\ta = 1 ", "b=x=y"] = .ok [("a", .text "1"), ("b", .text "x=y")] ∧
      ofWords ["c=", "a=2"] = .ok [("c", .text ""), ("a", .text "2")] ∧
      ofWords ["\ta = 1 ", "b=x=y", "c=", "a=2"] =
        .ok [("a", .text "2"), ("b", .text "x=y"), ("c", .text "")]) ∧
    (Writable ("b c", "x=y") ∧
      ofWords ["b c=x=y"] = .ok [("b c", .text "x=y")]) := by
  have read : ofWords ["\ta = 1 ", "b=x=y"] = .ok [("a", .text "1"), ("b", .text "x=y")] := by rfl
  have onward : ofWords ["c=", "a=2"] = .ok [("c", .text ""), ("a", .text "2")] := by rfl
  have writable : Writable ("b c", "x=y") := ⟨by decide, by decide, by decide, by decide⟩
  obtain ⟨_, _, _, appended, back⟩ := words_are_read_in_order ["\ta = 1 ", "b=x=y"]
  refine ⟨⟨read, onward, ?_⟩, writable, ?_⟩
  · exact appended _ _ _ read onward
  · exact back [("b c", "x=y")] (List.nodup_singleton _) (by simpa using writable)

end Kanban.Arguments
