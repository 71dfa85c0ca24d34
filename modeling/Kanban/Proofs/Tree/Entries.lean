import Kanban.Tree

namespace Kanban.Tree

theorem text_same_iff {written : String} {other : Tree} :
    (text written).same other = true ↔ other = text written := by
  cases other with
  | text _ => rw [same_text, beq_iff_eq, text.injEq, eq_comm]
  | _ => simp [same, sameNumber, integer?]

theorem same_text_iff {written : String} {other : Tree} :
    other.same (text written) = true ↔ other = text written := by
  cases other with
  | text _ => rw [same_text, beq_iff_eq, text.injEq]
  | _ => simp [same, sameNumber, integer?]

def KeysDiffer (keys : List Tree) : Prop :=
  keys.Pairwise fun key later => key.same later = false

theorem putEntry_new {entries : List (Tree × Tree)} {key : Tree} (value : Tree)
    (new : ∀ entry ∈ entries, entry.1.same key = false) :
    putEntry entries key value = entries ++ [(key, value)] := by
  induction entries with
  | nil => rfl
  | cons entry rest ih =>
      have onward := ih fun other member => new other (List.mem_cons_of_mem _ member)
      simp [putEntry, new entry (by simp), onward]

theorem foldl_putEntry {built entries : List (Tree × Tree)}
    (differ : KeysDiffer ((built ++ entries).map (·.1))) :
    entries.foldl (fun built entry => putEntry built entry.1 entry.2) built = built ++ entries := by
  induction entries generalizing built with
  | nil => simp
  | cons entry rest ih =>
      have new : ∀ earlier ∈ built, earlier.1.same entry.1 = false := by
        intro earlier member
        rw [KeysDiffer, List.map_append, List.pairwise_append] at differ
        exact differ.2.2 _ (List.mem_map_of_mem member) _ (by simp)
      rw [List.foldl_cons, putEntry_new entry.2 new]
      have moved : rest.foldl (fun built entry => putEntry built entry.1 entry.2)
          (built ++ [entry]) = built ++ [entry] ++ rest := ih (by simpa using differ)
      simpa using moved

theorem ofEntries_of_differ {entries : List (Tree × Tree)}
    (differ : KeysDiffer (entries.map (·.1))) : ofEntries entries = entries :=
  foldl_putEntry differ

section

variable {entries others : List (Tree × Tree)} {name : String}

theorem entry?_append :
    entry? (entries ++ others) name = (Tree.entry? entries name).or (Tree.entry? others name) := by
  rw [Tree.entry?, List.find?_append, Option.map_or]
  rfl

theorem entry?_here {value : Tree} : entry? ((.text name, value) :: entries) name = some value := by
  simp [Tree.entry?]

theorem entry?_later {key value : Tree} (other : key ≠ .text name) :
    entry? ((key, value) :: entries) name = entry? entries name := by
  simp [Tree.entry?, Bool.eq_false_iff.mpr (mt same_text_iff.mp other)]

theorem mem_of_located {value : Tree} (found : entry? entries name = some value) :
    (.text name, value) ∈ entries := by
  obtain ⟨⟨key, value⟩, located, rfl⟩ := Option.map_eq_some_iff.mp found
  have named := List.find?_some located
  obtain rfl := same_text_iff.mp named
  exact List.mem_of_find?_eq_some located

theorem entry?_of_mem (differ : KeysDiffer (entries.map (·.1))) {value : Tree}
    (member : (.text name, value) ∈ entries) : entry? entries name = some value := by
  induction entries with
  | nil => cases member
  | cons entry rest ih =>
      rw [List.map_cons, KeysDiffer, List.pairwise_cons] at differ
      rcases List.mem_cons.mp member with rfl | later
      · exact entry?_here
      · have apart := differ.1 _ (List.mem_map_of_mem later)
        rw [entry?_later (mt same_text_iff.mpr (Bool.eq_false_iff.mp apart))]
        exact ih differ.2 later

theorem entry?_perm (differ : KeysDiffer (entries.map (·.1))) (perm : entries.Perm others) :
    entry? entries name = entry? others name := by
  cases found : entry? others name with
  | some value => exact entry?_of_mem differ (perm.mem_iff.mpr (mem_of_located found))
  | none =>
      refine Option.eq_none_iff_forall_ne_some.mpr fun value located => ?_
      have member := perm.mem_iff.mp (mem_of_located located)
      rw [Tree.entry?, Option.map_eq_none_iff, List.find?_eq_none] at found
      exact found _ member (same_text_iff.mpr rfl)

end

end Kanban.Tree
