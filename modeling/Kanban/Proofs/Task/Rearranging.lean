import Kanban.Proofs.Task.Roles
import Kanban.Proofs.Tree.Entries
import Mathlib.Data.List.Nodup
import Mathlib.Logic.Relation

/-!
Definitions that differ in the order of their entries and in what is not read of them.  Wherever a
field is read of one of them it is read of the other, and its two values differ in the same way.
-/
namespace Kanban

open Grammar (Has Lacks)

/-- One change to what is read in a role: the entries of a mapping in another order, one more entry,
null or with a key that is not read, or a change in a field that is read or in an item of a list. -/
inductive Role.Rearranges : Role → Tree → Tree → Prop where
  | reordered {role : Role} {entries others : List (Tree × Tree)} :
      Tree.KeysDiffer (entries.map (·.1)) → entries.Perm others →
        Rearranges role (.map entries) (.map others)
  | added {role : Role} {entries : List (Tree × Tree)} {key value : Tree} :
      (value = .null ∨ ∀ field ∈ role.fields (.map entries), key ≠ .text field.1) →
        Rearranges role (.map entries) (.map (entries ++ [(key, value)]))
  | inField {role child : Role} {before after : List (Tree × Tree)} {name : String}
      {value other : Tree} :
      (name, child) ∈ role.fields (.map (before ++ (.text name, value) :: after)) →
        Rearranges child value other →
        Rearranges role (.map (before ++ (.text name, value) :: after))
          (.map (before ++ (.text name, other) :: after))
  | inItem {role : Role} {before after : List Tree} {item other : Tree} :
      Rearranges .text item other →
        Rearranges role (.list (before ++ item :: after)) (.list (before ++ other :: after))

def Role.Rearranged (role : Role) : Tree → Tree → Prop :=
  Relation.EqvGen role.Rearranges

/-- A field that two nodes have with values that are related, or that neither has. -/
inductive Grammar.FieldAlike (Related : Tree → Tree → Prop) (name : String) (node other : Tree) :
    Prop where
  | given {value value' : Tree} :
      Has node name value → Has other name value' → Related value value' →
        FieldAlike Related name node other
  | lacking : Lacks node name → Lacks other name → FieldAlike Related name node other

/-- Nodes that are the same, or of the same shape with everything related that is read of them. -/
inductive Role.Matches (Related : Role → Tree → Tree → Prop) (role : Role) :
    Tree → Tree → Prop where
  | same (node : Tree) : Matches Related role node node
  | list {items others : List Tree} :
      List.Forall₂ (Related .text) items others → Matches Related role (.list items) (.list others)
  | map {entries others : List (Tree × Tree)} :
      (∀ field, field ∈ role.fields (.map entries) ↔ field ∈ role.fields (.map others)) →
        (∀ field ∈ role.fields (.map entries),
          Grammar.FieldAlike (Related field.2) field.1 (.map entries) (.map others)) →
        Matches Related role (.map entries) (.map others)

namespace Grammar.FieldAlike

variable {Related : Tree → Tree → Prop} {name : String} {node middle other : Tree}
  {entries others : List (Tree × Tree)}

theorem symm (symmetric : ∀ value value', Related value value' → Related value' value)
    (alike : FieldAlike Related name node other) : FieldAlike Related name other node := by
  cases alike with
  | given first second related => exact .given second first (symmetric _ _ related)
  | lacking first second => exact .lacking second first

theorem trans (transitive : ∀ value between value', Related value between →
      Related between value' → Related value value')
    (first : FieldAlike Related name node middle) (second : FieldAlike Related name middle other) :
    FieldAlike Related name node other := by
  cases first with
  | given here between related =>
      cases second with
      | given again there onward =>
          obtain rfl := between.unique again
          exact .given here there (transitive _ _ _ related onward)
      | lacking without => exact absurd between without.not_has
  | lacking without between =>
      cases second with
      | given again => exact absurd again between.not_has
      | lacking _ there => exact .lacking without there

theorem of_lookup (reflexive : ∀ value, Related value value)
    (same : Tree.entry? entries name = Tree.entry? others name) :
    FieldAlike Related name (.map entries) (.map others) := by
  cases found : Tree.entry? entries name with
  | none => exact .lacking (.missing found) (.missing (same ▸ found))
  | some value =>
      by_cases null : value = .null
      · rw [null] at found
        exact .lacking (.null found) (.null (same ▸ found))
      · exact .given (.field found null) (.field (same ▸ found) null) (reflexive value)

end Grammar.FieldAlike

namespace Role

open Grammar (FieldAlike)

variable {role child : Role} {node other : Tree} {name : String}
  {entries others : List (Tree × Tree)}

theorem nodup_fields (role : Role) (node : Tree) : ((role.fields node).map (·.1)).Nodup := by
  cases role with
  | source | action | definition =>
      rw [fields]
      split <;> decide
  | _ =>
      simp only [fields]
      decide

theorem fields_unique {child' : Role} (member : (name, child) ∈ role.fields node)
    (again : (name, child') ∈ role.fields node) : child = child' := by
  have same := List.inj_on_of_nodup_map (nodup_fields role node) member again rfl
  exact congrArg Prod.snd same

theorem Rearranges.notNull (step : role.Rearranges node other) : node ≠ .null ∧ other ≠ .null := by
  cases step <;> exact ⟨nofun, nofun⟩

theorem Rearranged.refl (node : Tree) : role.Rearranged node node :=
  Relation.EqvGen.refl node

theorem Rearranged.text_iff (rearranged : role.Rearranged node other) (written : String) :
    node = .text written ↔ other = .text written := by
  induction rearranged with
  | rel _ _ step => cases step <;> exact iff_of_false nofun nofun
  | refl => rfl
  | symm _ _ _ ih => exact ih.symm
  | trans _ _ _ _ _ first second => exact first.trans second

theorem Rearranges.fieldAlike (step : role.Rearranges (.map entries) (.map others)) :
    ∀ field ∈ role.fields (.map entries),
      FieldAlike field.2.Rearranged field.1 (.map entries) (.map others) := by
  rintro ⟨name, child⟩ member
  cases step with
  | reordered differ perm => exact .of_lookup .refl (Tree.entry?_perm differ perm)
  | @added _ _ key value unread =>
      cases found : Tree.entry? entries name with
      | some value =>
          refine .of_lookup .refl ?_
          rw [Tree.entry?_append, found, Option.some_or]
      | none =>
          have added : Tree.entry? (entries ++ [(key, value)]) name =
              Tree.entry? [(key, value)] name := by
            rw [Tree.entry?_append, found, Option.none_or]
          by_cases here : key = .text name
          · obtain rfl := unread.resolve_right fun other => other _ member here
            rw [here, Tree.entry?_here, ← here] at added
            exact .lacking (.missing found) (.null added)
          · rw [Tree.entry?_later here, Tree.entry?_nil] at added
            exact .lacking (.missing found) (.missing added)
  | @inField _ child' before after name' value other isRead step =>
      have located (value : Tree) :
          Tree.entry? (before ++ (.text name', value) :: after) name =
            (Tree.entry? before name).or (Tree.entry? ((.text name', value) :: after) name) :=
        Tree.entry?_append
      cases earlier : Tree.entry? before name with
      | some found =>
          refine .of_lookup .refl ?_
          rw [located, located, earlier, Option.some_or, Option.some_or]
      | none =>
          simp only [earlier, Option.none_or] at located
          by_cases here : name' = name
          · subst here
            obtain rfl := fields_unique member isRead
            simp only [Tree.entry?_here] at located
            exact .given (.field (located value) step.notNull.1)
              (.field (located other) step.notNull.2) (.rel _ _ step)
          · refine .of_lookup .refl ?_
            rw [located, located, Tree.entry?_later (by simpa using here),
              Tree.entry?_later (by simpa using here)]

theorem type_mem_fields (member : ("type", word) ∈ role.fields node) (other : Tree) :
    ("type", word) ∈ role.fields other := by
  rcases mem_fields member with always | ⟨tagged, _⟩
  · exact always other
  · exact tagged other

theorem mem_fields_of_fieldAlike
    (alike : ("type", word) ∈ role.fields node → FieldAlike word.Rearranged "type" node other)
    {field : String × Role} (member : field ∈ role.fields node) : field ∈ role.fields other := by
  rcases mem_fields member with always | ⟨tagged, tag, read, byTag⟩
  · exact always other
  · have has := Grammar.tag_ok.mp read
    cases alike (tagged node) with
    | given found there rearranged =>
        rw [(rearranged.text_iff tag).mp (found.unique has)] at there
        exact byTag other (Grammar.tag_ok.mpr there)
    | lacking without => exact absurd has without.not_has

namespace Matches

variable {Related : Role → Tree → Tree → Prop} {middle : Tree}

theorem symm (symmetric : ∀ role value value', Related role value value' →
      Related role value' value) (alike : role.Matches Related node other) :
    role.Matches Related other node := by
  cases alike with
  | same => exact .same node
  | list related => exact .list (related.flip.imp fun _ _ => symmetric _ _ _)
  | map fields alike =>
      exact .map (fun field => (fields field).symm) fun field member =>
        (alike field ((fields field).mpr member)).symm (symmetric _)

theorem trans_list (transitive : ∀ value between value', Related .text value between →
      Related .text between value' → Related .text value value') {items middle others : List Tree}
    (first : List.Forall₂ (Related .text) items middle)
    (second : List.Forall₂ (Related .text) middle others) :
    List.Forall₂ (Related .text) items others := by
  induction first generalizing others with
  | nil => exact second
  | cons here _ ih =>
      cases second with
      | cons there onward => exact .cons (transitive _ _ _ here there) (ih onward)

theorem trans (transitive : ∀ role value between value', Related role value between →
      Related role between value' → Related role value value')
    (first : role.Matches Related node middle) (second : role.Matches Related middle other) :
    role.Matches Related node other := by
  cases first with
  | same => exact second
  | @list items others related =>
      cases second with
      | same => exact .list related
      | list onward => exact .list (trans_list (transitive .text) related onward)
  | map fields alike =>
      cases second with
      | same => exact .map fields alike
      | map again onward =>
          exact .map (fun field => (fields field).trans (again field)) fun field member =>
            (alike field member).trans (transitive _)
              (onward field ((fields field).mp member))

end Matches

/-- What is rearranged is of the same shape, with everything rearranged that is read of it. -/
theorem Rearranged.matches (rearranged : role.Rearranged node other) :
    role.Matches Rearranged node other := by
  induction rearranged with
  | rel _ _ step =>
      have ofMap {entries others : List (Tree × Tree)}
          (step : role.Rearranges (.map entries) (.map others)) :
          role.Matches Rearranged (.map entries) (.map others) := by
        have alike := step.fieldAlike
        refine .map (fun field => ⟨?_, ?_⟩) alike
        · exact mem_fields_of_fieldAlike (alike ("type", word))
        · exact mem_fields_of_fieldAlike fun tagged =>
            (alike ("type", word) (type_mem_fields tagged _)).symm fun _ _ => .symm _ _
      cases step with
      | reordered differ perm => exact ofMap (.reordered differ perm)
      | added unread => exact ofMap (.added unread)
      | inField isRead step => exact ofMap (.inField isRead step)
      | inItem step =>
          refine .list (List.rel_append (List.forall₂_same.mpr fun _ _ => .refl _) (.cons ?_ ?_))
          · exact .rel _ _ step
          · exact List.forall₂_same.mpr fun _ _ => .refl _
  | refl node => exact .same node
  | symm _ _ _ ih => exact ih.symm fun _ _ _ => .symm _ _
  | trans _ _ _ _ _ first second => exact first.trans (fun _ _ _ _ => .trans _ _ _) second

end Role

end Kanban
