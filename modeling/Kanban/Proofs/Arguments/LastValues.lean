import Kanban.Proofs.Lists.FirstAppearance
import Kanban.Proofs.Template.Composition

namespace Kanban.Arguments

variable {arguments others : Arguments} {name : String}

theorem put_of_new (new : name ∉ arguments.names) (value : Tree) :
    arguments.put name value = arguments ++ [(name, value)] := by
  induction arguments with
  | nil => rfl
  | cons entry rest ih =>
      rw [names, List.map_cons, List.mem_cons, not_or] at new
      rw [put, if_neg (by simpa using Ne.symm new.1), ih new.2]
      rfl

theorem names_put_of_known (known : name ∈ arguments.names) (value : Tree) :
    (arguments.put name value).names = arguments.names := by
  induction arguments with
  | nil => cases known
  | cons entry rest ih =>
      obtain ⟨other, old⟩ := entry
      rw [put]
      split
      next => rfl
      next differs =>
        have later : name ∈ names rest := by
          apply (List.mem_cons.mp known).resolve_left
          rintro rfl
          simp at differs
        exact congrArg (other :: ·) (ih later)

theorem names_put_ordered (arguments : Arguments) (name : String) (value : Tree) :
    (arguments.put name value).names =
      if name ∈ arguments.names then arguments.names else arguments.names ++ [name] := by
  split
  next known => exact names_put_of_known known value
  next new =>
    rw [put_of_new new]
    exact List.map_append

theorem value?_cons (entry : String × Tree) (rest : Arguments) (name : String) :
    value? (entry :: rest) name = if entry.1 = name then some entry.2 else rest.value? name := by
  unfold value?
  rw [List.find?_cons]
  split
  next same => simp [beq_iff_eq.mp same]
  next differs => simp [beq_eq_false_iff_ne.mp differs]

theorem eq_of_values (differ : arguments.names.Nodup) (named : arguments.names = others.names)
    (valued : ∀ name, arguments.value? name = others.value? name) : arguments = others := by
  induction arguments generalizing others with
  | nil =>
      cases others with
      | nil => rfl
      | cons => cases named
  | cons entry rest ih =>
      cases others with
      | nil => cases named
      | cons other later =>
          obtain ⟨key, value⟩ := entry
          obtain ⟨key', value'⟩ := other
          obtain ⟨rfl, onward⟩ : key = key' ∧ names rest = names later := by
            simpa [names] using named
          obtain ⟨new, differ⟩ := List.nodup_cons.mp differ
          have first := valued key
          simp only [value?_cons, if_true, Option.some.injEq] at first
          have same : rest = later := by
            apply ih differ onward
            intro name
            by_cases here : key = name
            · subst here
              rw [value?_of_unnamed new, value?_of_unnamed (onward ▸ new)]
            · simpa only [value?_cons, here, if_false] using valued name
          rw [first, same]

def updated (arguments others : Arguments) : Arguments :=
  arguments.map (fun pair => (pair.1, (others.value? pair.1).getD pair.2)) ++
    others.filter fun pair => pair.1 ∉ arguments.names

theorem names_updated (arguments others : Arguments) :
    (arguments.updated others).names =
      arguments.names ++ others.names.filter (· ∉ arguments.names) := by
  simp only [updated, names, List.map_append, List.map_map, List.filter_map]
  rfl

theorem value?_replaced (values : String → Option Tree) (arguments : Arguments) (name : String) :
    value? (arguments.map fun pair => (pair.1, (values pair.1).getD pair.2)) name =
      (arguments.value? name).map fun old => (values name).getD old := by
  induction arguments with
  | nil => rfl
  | cons entry rest ih =>
      rw [List.map_cons, value?_cons, value?_cons, ih]
      split
      next same =>
        subst same
        rfl
      next => rfl

theorem value?_updated (arguments others : Arguments) (name : String) :
    (arguments.updated others).value? name = (others.value? name).or (arguments.value? name) := by
  have parts : (arguments.updated others).value? name =
      ((arguments.value? name).map fun old => (others.value? name).getD old).or
        (value? (others.filter fun pair => pair.1 ∉ arguments.names) name) := by
    rw [← value?_replaced others.value?, updated, value?, List.find?_append, Option.map_or]
    rfl
  rw [parts]
  by_cases named : name ∈ arguments.names
  · obtain ⟨old, known⟩ := value?_of_named named
    rw [known]
    cases others.value? name <;> rfl
  · rw [value?_of_unnamed named, value?_of_others named, Option.or_none]
    rfl

/-- The names of pairs in the order in which they first come up, each with its last value. -/
structure Collects (arguments : Arguments) (pairs : List (String × String)) : Prop where
  names : arguments.names = (pairs.map (·.1)).eraseDups
  values : ∀ name,
    arguments.value? name = (pairs.reverse.find? (·.1 == name)).map fun pair => .text pair.2

namespace Collects

variable {pairs more : List (String × String)}

theorem nil : Collects [] [] :=
  ⟨rfl, fun _ => rfl⟩

theorem differ (collected : arguments.Collects pairs) : arguments.names.Nodup := by
  rw [collected.names]
  exact Lists.nodup_eraseDups _

theorem unique (collected : arguments.Collects pairs) (again : others.Collects pairs) :
    arguments = others := by
  apply eq_of_values collected.differ
  · rw [collected.names, again.names]
  · intro name
    rw [collected.values, again.values]

theorem put (collected : arguments.Collects pairs) (name value : String) :
    (arguments.put name (.text value)).Collects (pairs ++ [(name, value)]) where
  names := by
    rw [names_put_ordered, List.map_append, List.map_singleton, Lists.eraseDups_snoc,
      collected.names]
    simp only [List.mem_eraseDups]
  values := by
    intro other
    rw [value?_put, List.reverse_append, List.reverse_singleton, List.singleton_append,
      List.find?_cons, collected.values]
    by_cases same : name = other
    · simp [same]
    · rw [if_neg same, beq_eq_false_iff_ne.mpr same]

theorem updated (collected : arguments.Collects pairs) (added : others.Collects more) :
    (arguments.updated others).Collects (pairs ++ more) where
  names := by
    rw [names_updated, collected.names, added.names, List.map_append, List.eraseDups_append,
      List.removeAll, Lists.eraseDups_filter]
    congr 2
    funext name
    simp
  values := by
    intro name
    rw [value?_updated, collected.values, added.values, List.reverse_append, List.find?_append,
      Option.map_or]

theorem of_nodup (differ : (pairs.map (·.1)).Nodup) :
    Collects (pairs.map fun pair => (pair.1, .text pair.2)) pairs := by
  induction pairs using List.reverseRecOn with
  | nil => exact nil
  | append_singleton pairs pair ih =>
      rw [List.map_append, List.nodup_append] at differ
      have new : pair.1 ∉ Arguments.names (pairs.map fun pair => (pair.1, .text pair.2)) := by
        intro old
        rw [Arguments.names, List.map_map] at old
        exact differ.2.2 _ old _ List.mem_cons_self rfl
      have collected := (ih differ.1).put pair.1 pair.2
      rw [put_of_new new] at collected
      rw [List.map_append]
      exact collected

end Collects

end Kanban.Arguments
