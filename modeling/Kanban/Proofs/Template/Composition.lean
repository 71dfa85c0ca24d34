import Kanban.Proofs.Template.Settled
import Kanban.Proofs.Tree.Entries

namespace Kanban

namespace Arguments

/-- All arguments of the first, and those of the second that the first has no value for. -/
def joined (arguments others : Arguments) : Arguments :=
  arguments ++ others.filter fun pair => pair.1 ∉ arguments.names

theorem value?_of_unnamed {arguments : Arguments} {name : String}
    (unnamed : name ∉ arguments.names) : arguments.value? name = none := by
  simp only [value?, Option.map_eq_none_iff, List.find?_eq_none, beq_iff_eq]
  intro pair member same
  exact unnamed (same ▸ List.mem_map_of_mem member)

theorem value?_of_named {arguments : Arguments} {name : String} (named : name ∈ arguments.names) :
    ∃ value, arguments.value? name = some value := by
  obtain ⟨pair, member, rfl⟩ := List.mem_map.mp named
  refine Option.isSome_iff_exists.mp ?_
  simp only [value?, Option.isSome_map, List.find?_isSome, beq_iff_eq]
  exact ⟨pair, member, rfl⟩

theorem value?_of_others {arguments : Arguments} {name : String}
    (unnamed : name ∉ arguments.names) (others : Arguments) :
    value? (others.filter fun pair => pair.1 ∉ arguments.names) name = others.value? name := by
  rw [value?, List.find?_filter, value?]
  congr 2
  funext pair
  by_cases same : pair.1 = name
  · simp [same, unnamed]
  · simp [same]

theorem value?_joined (arguments others : Arguments) (name : String) :
    (arguments.joined others).value? name = (arguments.value? name).or (others.value? name) := by
  rw [joined, value?, List.find?_append, Option.map_or, ← value?]
  by_cases named : name ∈ arguments.names
  · obtain ⟨value, known⟩ := value?_of_named named
    rw [known, Option.some_or, Option.some_or]
  · rw [← value?, value?_of_others named]

end Arguments

namespace Template

theorem filled_letters (arguments : Arguments) (chars : List Char) :
    (chars.map Piece.letter).flatMap (Piece.filled arguments) = chars := by
  induction chars with
  | nil => rfl
  | cons c rest ih => simp [Piece.filled, ih]

theorem filled_settled (arguments others : Arguments) (row : List Piece) :
    (settled arguments row).flatMap (Piece.filled others) =
      row.flatMap (Piece.filled (arguments.joined others)) := by
  induction row with
  | nil => rfl
  | cons piece row ih =>
      cases piece with
      | letter c => simp [Piece.filled, ih]
      | slot name =>
          cases known : arguments.value? (String.ofList name) with
          | none =>
              simp [settled_slot_unknown known, Piece.filled, Arguments.value?_joined, known, ih]
          | some value =>
              simp [settled_slot_known known, Piece.filled, Arguments.value?_joined, known, ih,
                filled_letters]

theorem substitute_substitute {arguments : Arguments} (plain : arguments.Plain)
    (others : Arguments) (text : String) :
    substitute others (substitute arguments text) =
      substitute (arguments.joined others) text := by
  simp only [substitute, String.toList_ofList]
  rw [pieces_filled plain, filled_settled]

mutual

/-- Whether the keys of every mapping in a tree stay different when they are filled. -/
def KeysApart (fill : Tree → Tree) : Tree → Prop
  | .list items => ItemsApart fill items
  | .map entries =>
      Tree.KeysDiffer (entries.map fun entry => fill entry.1) ∧ EntriesApart fill entries
  | _ => True

def ItemsApart (fill : Tree → Tree) : List Tree → Prop
  | [] => True
  | item :: items => KeysApart fill item ∧ ItemsApart fill items

def EntriesApart (fill : Tree → Tree) : List (Tree × Tree) → Prop
  | [] => True
  | (key, value) :: entries =>
      KeysApart fill key ∧ KeysApart fill value ∧ EntriesApart fill entries

end

theorem keys_resolveEntries (arguments : Arguments) (entries : List (Tree × Tree)) :
    (resolveEntries arguments entries).map (·.1) =
      entries.map fun entry => resolve arguments entry.1 := by
  induction entries with
  | nil => simp [resolveEntries]
  | cons entry rest ih => simp [resolveEntries, ih]

theorem resolve_map {arguments : Arguments} {entries : List (Tree × Tree)}
    (differ : Tree.KeysDiffer (entries.map fun entry => resolve arguments entry.1)) :
    resolve arguments (.map entries) = .map (resolveEntries arguments entries) := by
  rw [resolve, Tree.ofEntries_of_differ]
  rwa [keys_resolveEntries]

section

variable {arguments others both : Arguments}

theorem substitute_of_agree {text : String}
    (agree : ∀ name ∈ textNames text, arguments.value? name = others.value? name) :
    substitute arguments text = substitute others text := by
  rw [substitute, substitute]
  congr 1
  rw [textNames] at agree
  generalize pieces text.toList = row at agree ⊢
  induction row with
  | nil => rfl
  | cons piece row ih =>
      cases piece with
      | letter c => rw [List.flatMap_cons, List.flatMap_cons, ih agree]; rfl
      | slot name =>
          have first := agree (String.ofList name) List.mem_cons_self
          have onward := ih fun other later => agree other (List.mem_cons_of_mem _ later)
          rw [List.flatMap_cons, List.flatMap_cons, onward, Piece.filled, Piece.filled, first]

theorem substitute_congr (alike : ∀ name, arguments.value? name = others.value? name)
    (text : String) : substitute arguments text = substitute others text :=
  substitute_of_agree fun name _ => alike name

mutual

theorem resolve_resolve
    (composes : ∀ text, substitute others (substitute arguments text) = substitute both text)
    (node : Tree) (apart : KeysApart (resolve arguments) node)
    (together : KeysApart (resolve both) node) :
    resolve others (resolve arguments node) = resolve both node := by
  cases node with
  | null | bool | int | real | undefined | date | endless | foreign => simp [resolve]
  | text value => simp [composes]
  | list items =>
      rw [KeysApart] at apart together
      simp only [resolve]
      rw [resolveItems_resolveItems composes items apart together]
  | map entries =>
      rw [KeysApart] at apart together
      have filled := resolveEntries_resolveEntries composes entries apart.2 together.2
      rw [resolve_map apart.1, resolve_map together.1, resolve_map, filled]
      have keys := congrArg (List.map (·.1)) filled
      rw [keys_resolveEntries, keys_resolveEntries] at keys
      rw [keys]
      exact together.1

theorem resolveItems_resolveItems
    (composes : ∀ text, substitute others (substitute arguments text) = substitute both text)
    (items : List Tree) (apart : ItemsApart (resolve arguments) items)
    (together : ItemsApart (resolve both) items) :
    resolveItems others (resolveItems arguments items) = resolveItems both items := by
  cases items with
  | nil => simp [resolveItems]
  | cons item items =>
      rw [ItemsApart] at apart together
      simp only [resolveItems]
      rw [resolve_resolve composes item apart.1 together.1,
        resolveItems_resolveItems composes items apart.2 together.2]

theorem resolveEntries_resolveEntries
    (composes : ∀ text, substitute others (substitute arguments text) = substitute both text)
    (entries : List (Tree × Tree)) (apart : EntriesApart (resolve arguments) entries)
    (together : EntriesApart (resolve both) entries) :
    resolveEntries others (resolveEntries arguments entries) = resolveEntries both entries := by
  match entries with
  | [] => simp [resolveEntries]
  | (key, value) :: entries =>
      rw [EntriesApart] at apart together
      simp only [resolveEntries]
      rw [resolve_resolve composes key apart.1 together.1,
        resolve_resolve composes value apart.2.1 together.2.1,
        resolveEntries_resolveEntries composes entries apart.2.2 together.2.2]

end

/-- Arguments without a tilde in their values can be filled in before others, which comes to the
same as filling in all of them at once; filling in the same ones again changes nothing, and of two
sets of such arguments for different names either may come first. -/
theorem fillings_compose (plain : arguments.Plain) (node : Tree)
    (apart : KeysApart (resolve arguments) node) :
    (KeysApart (resolve (arguments.joined others)) node →
      resolve others (resolve arguments node) = resolve (arguments.joined others) node) ∧
    resolve arguments (resolve arguments node) = resolve arguments node ∧
    (others.Plain → (∀ name ∈ arguments.names, name ∉ others.names) →
      KeysApart (resolve others) node →
      KeysApart (resolve (arguments.joined others)) node →
      resolve others (resolve arguments node) = resolve arguments (resolve others node)) := by
  refine ⟨?_, ?_, ?_⟩
  · intro together
    exact resolve_resolve (substitute_substitute plain others) node apart together
  · refine resolve_resolve ?_ node apart apart
    intro text
    rw [substitute_substitute plain]
    apply substitute_congr
    intro name
    rw [Arguments.value?_joined, Option.or_self]
  · intro othersPlain disjoint othersApart together
    have swapped (name : String) :
        (others.joined arguments).value? name = (arguments.joined others).value? name := by
      rw [Arguments.value?_joined, Arguments.value?_joined]
      by_cases named : name ∈ arguments.names
      · rw [Arguments.value?_of_unnamed (disjoint name named), Option.none_or, Option.or_none]
      · rw [Arguments.value?_of_unnamed named, Option.none_or, Option.or_none]
    rw [resolve_resolve (substitute_substitute plain others) node apart together]
    refine (resolve_resolve ?_ node othersApart together).symm
    intro text
    rw [substitute_substitute othersPlain]
    exact substitute_congr swapped text

end

/-- Between two placeholders that are filled with nothing, a third one is found again when its
value comes, and what that value looks like is never filled. -/
theorem fillings_compose_of_glued :
    let first : Arguments := [("gap", .text "")]
    let second : Arguments := [("size", .text "~~gap~~"), ("gap", .int 7)]
    let third : Arguments := [("size", .int 3)]
    let node : Tree := .map [(.text "~~gap~~k", .list [.text "~~gap~~~~size~~~~gap~~~"])]
    first.Plain ∧ KeysApart (resolve first) node ∧
      KeysApart (resolve (first.joined second)) node ∧
      resolve second (resolve first node) = .map [(.text "k", .list [.text "~~gap~~~"])] ∧
      resolve (first.joined second) node = .map [(.text "k", .list [.text "~~gap~~~"])] ∧
      resolve first (resolve first node) = resolve first node ∧
      resolve third (resolve first node) = resolve first (resolve third node) := by
  intro first second third node
  have plain : first.Plain := Arguments.plain_single (by decide)
  have thirdPlain : third.Plain := Arguments.plain_single (by decide)
  have apart (arguments : Arguments) : KeysApart (resolve arguments) node := by
    simp [node, KeysApart, EntriesApart, ItemsApart, Tree.KeysDiffer]
  have gap : IsName ['g', 'a', 'p'] := .of_plain (by simp) (by simp) (by simp)
  have size : IsName ['s', 'i', 'z', 'e'] := .of_plain (by simp) (by simp) (by simp)
  have key : substitute (first.joined second) "~~gap~~k" = "k" := by
    rw [substitute_written (.slot gap (.single 'k')) (by decide)]
    decide
  have item : substitute (first.joined second) "~~gap~~~~size~~~~gap~~~" = "~~gap~~~" := by
    rw [substitute_written (.slot gap (.slot size (.slot gap (.single '~')))) (by decide)]
    decide
  have filled : resolve (first.joined second) node =
      .map [(.text "k", .list [.text "~~gap~~~"])] := by
    simp [node, resolve, resolveEntries, resolveItems, key, item, Tree.ofEntries, Tree.putEntry]
  have composed (others : Arguments) : (KeysApart (resolve (first.joined others)) node → _) ∧ _ :=
    fillings_compose plain node (apart first)
  exact ⟨plain, apart first, apart _, ((composed second).1 (apart _)).trans filled, filled,
    (composed second).2.1, (composed third).2.2 thirdPlain (by decide) (apart third) (apart _)⟩

end Template

end Kanban
