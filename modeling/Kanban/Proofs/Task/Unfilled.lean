import Kanban.Proofs.Task.Language
import Kanban.Proofs.Task.Replacing
import Kanban.Proofs.Template.Insertion
import Kanban.Proofs.Text.Trimming

/-!
Definitions with their placeholders left in place.  Free text takes a placeholder as it is; a word
of the language, a size and a truth value do not.  So a definition that can be read once it is
filled can be read without that exactly if no placeholder stands where one of these is read.
-/
namespace Kanban

open Grammar (Has Lacks Mandatory Optional)
open Template (placeholders textNames substitute resolve resolveItems resolveEntries)

namespace Role

/-- What is read of a node in the end: the node itself, and its fields with all that is read of
them. -/
inductive Reaches : Role → Tree → Role → Tree → Prop where
  | here (role : Role) (node : Tree) : Reaches role node role node
  | field {role child part : Role} {node value leaf : Tree} {name : String} :
      (name, child) ∈ role.fields node → Has node name value → Reaches child value part leaf →
        Reaches role node part leaf

/-- Whether only some values can be read, whatever they are filled with. -/
def isStrict : Role → Bool
  | word | size | flag => true
  | _ => false

/-- No placeholder stands where a value is read that may not be just any text. -/
def Settled (role : Role) (node : Tree) : Prop :=
  ∀ part leaf, role.Reaches node part leaf → part.isStrict = true → placeholders leaf = []

variable {role child : Role} {node other value : Tree} {name : String}

theorem settled_iff :
    role.Settled node ↔ (role.isStrict = true → placeholders node = []) ∧
      ∀ field ∈ role.fields node, ∀ value, Has node field.1 value → field.2.Settled value := by
  constructor
  · intro settled
    refine ⟨settled role node (.here role node), fun field member value has part leaf reaches => ?_⟩
    exact settled part leaf (.field member has reaches)
  · rintro ⟨own, fields⟩ part leaf reaches strict
    cases reaches with
    | here => exact own strict
    | field member has reaches => exact fields _ member _ has part leaf reaches strict

theorem Settled.field (settled : role.Settled node) (member : (name, child) ∈ role.fields node)
    (has : Has node name value) : child.Settled value :=
  (settled_iff.mp settled).2 _ member value has

theorem Settled.own (settled : role.Settled node) (strict : role.isStrict = true) :
    placeholders node = [] :=
  settled _ _ (.here role node) strict

theorem settled_of_fields (free : role.isStrict = false)
    (fields : ∀ field ∈ role.fields node, ∀ value, Has node field.1 value →
      field.2.Settled value) : role.Settled node := by
  rw [settled_iff]
  refine ⟨fun strict => ?_, fields⟩
  rw [free] at strict
  cases strict

theorem settled_of_none (unmarked : placeholders node = []) (single : role.fields node = []) :
    role.Settled node := by
  rw [settled_iff, single]
  exact ⟨fun _ => unmarked, nofun⟩

end Role

namespace Template

/-- A text with its placeholders filled, and the text without that. -/
inductive Unfills (arguments : Arguments) : Tree → Tree → Prop where
  | text (written : String) :
      Unfills arguments (.text (substitute arguments written)) (.text written)

variable {arguments : Arguments}

theorem isSwap_unfills : Tree.IsSwap (Unfills arguments) where
  notMap unfills _ := by
    obtain ⟨_⟩ := unfills
    nofun
  notNull unfills := by
    obtain ⟨_⟩ := unfills
    exact ⟨nofun, nofun⟩
  writable unfills _ := by
    obtain ⟨_⟩ := unfills
    exact Tree.isWritable_text _

mutual

/-- Whether no key of a mapping in a tree has a placeholder that the arguments fill. -/
def KeysKept (arguments : Arguments) : Tree → Prop
  | .list items => ItemsKept arguments items
  | .map entries => EntriesKept arguments entries
  | _ => True

def ItemsKept (arguments : Arguments) : List Tree → Prop
  | [] => True
  | item :: items => KeysKept arguments item ∧ ItemsKept arguments items

def EntriesKept (arguments : Arguments) : List (Tree × Tree) → Prop
  | [] => True
  | (key, value) :: entries =>
      (∀ name ∈ placeholders key, name ∉ arguments.names) ∧ KeysKept arguments value ∧
        EntriesKept arguments entries

end

mutual

theorem resolve_unfills (node : Tree) (kept : KeysKept arguments node) :
    (resolve arguments node).Replaces (Unfills arguments) (resolve [] node) := by
  cases node with
  | text written =>
      rw [resolve_text, resolve_text, substitute_nil]
      exact .swapped (.text written)
  | null | bool | int | real | undefined | date | endless | foreign =>
      simp only [resolve]
      exact .kept _
  | list items =>
      rw [KeysKept] at kept
      simp only [resolve]
      exact .list (resolveItems_unfills items kept)
  | map entries =>
      rw [KeysKept] at kept
      simp only [resolve]
      exact .map (Tree.ofEntries_entrywise (resolveEntries_unfills entries kept))

theorem resolveItems_unfills (items : List Tree) (kept : ItemsKept arguments items) :
    List.Forall₂ (Tree.Replaces (Unfills arguments)) (resolveItems arguments items)
      (resolveItems [] items) := by
  cases items with
  | nil => exact .nil
  | cons item rest =>
      rw [ItemsKept] at kept
      exact .cons (resolve_unfills item kept.1) (resolveItems_unfills rest kept.2)

theorem resolveEntries_unfills (entries : List (Tree × Tree))
    (kept : EntriesKept arguments entries) :
    List.Forall₂ (Tree.Entrywise (Tree.Replaces (Unfills arguments)))
      (resolveEntries arguments entries) (resolveEntries [] entries) := by
  match entries with
  | [] => exact .nil
  | (key, value) :: rest =>
      rw [EntriesKept] at kept
      have same : resolve arguments key = resolve [] key :=
        resolve_of_agree key fun name found => Arguments.value?_of_unnamed (kept.1 name found)
      rw [resolveEntries, resolveEntries, same]
      exact .cons (.entry (resolve_unfills value kept.2.1)) (resolveEntries_unfills rest kept.2.2)

end

end Template

open Template (Unfills)

namespace Tree.Replaces

variable {arguments : Arguments} {value other : Tree}

theorem ofSettled (unfilled : value.Replaces (Unfills arguments) other)
    (unmarked : placeholders other = []) (notList : ∀ items, value ≠ .list items)
    (notMap : ∀ entries, value ≠ .map entries) : other = value := by
  cases unfilled with
  | kept => rfl
  | swapped unfills =>
      obtain ⟨written⟩ := unfills
      rw [placeholders] at unmarked
      have same : substitute arguments written = substitute [] written :=
        Template.substitute_of_agree (by simp [unmarked])
      rw [same, Template.substitute_nil]
  | list => exact absurd rfl (notList _)
  | map => exact absurd rfl (notMap _)

end Tree.Replaces

namespace Grammar

variable {arguments : Arguments} {value other node : Tree}

theorem Spells.unfilled {text : String} (spelled : Spells .ofNumerals value text)
    (unfilled : value.Replaces (Unfills arguments) other) :
    ∃ written, Spells .ofNumerals other written := by
  cases unfilled with
  | kept => exact ⟨text, spelled⟩
  | swapped unfills =>
      obtain ⟨written⟩ := unfills
      exact ⟨written, .text written⟩
  | list | map => cases spelled

theorem Steps.unfilled {steps : List String} (listed : Steps .ofNumerals value steps)
    (unfilled : value.Replaces (Unfills arguments) other) :
    ∃ written, Steps .ofNumerals other written := by
  obtain @⟨items, _, spelled⟩ := listed
  cases unfilled with
  | kept => exact ⟨steps, .list spelled⟩
  | swapped unfills => cases unfills
  | @list _ others related =>
      suffices all : ∃ written, List.Forall₂ (Spells .ofNumerals) others written by
        obtain ⟨written, all⟩ := all
        exact ⟨written, .list all⟩
      induction related generalizing steps with
      | nil => exact ⟨[], .nil⟩
      | cons first _ ih =>
          obtain ⟨step, rest, here, onward, rfl⟩ := List.forall₂_cons_left_iff.mp spelled
          obtain ⟨written, here⟩ := here.unfilled first
          obtain ⟨others, onward⟩ := ih onward
          exact ⟨written :: others, .cons here onward⟩

end Grammar

theorem mem_fields_unfilled {arguments : Arguments} {role child : Role} {node other : Tree}
    {name : String} (unfilled : node.Replaces (Unfills arguments) other)
    (settled : role.Settled other) (member : (name, child) ∈ role.fields node) :
    (name, child) ∈ role.fields other := by
  rcases Role.mem_fields member with always | ⟨tagged, tag, read, byTag⟩
  · exact always other
  · obtain ⟨value, there, same⟩ :=
      (Grammar.tag_ok.mp read).replaced Template.isSwap_unfills unfilled
    have own := (settled.field (tagged other) there).own rfl
    obtain rfl := same.ofSettled own nofun nofun
    exact byTag other (Grammar.tag_ok.mpr there)

theorem respects_unfills (arguments : Arguments) :
    (Comparison.ofSuccess False).Respects fun role node other =>
      node.Replaces (Unfills arguments) other ∧ role.Settled other where
  required := by
    rintro role child node other name ⟨unfilled, settled⟩ member
    have again := mem_fields_unfilled unfilled settled member
    exact Field.required_replaced Template.isSwap_unfills unfilled fun _ _ _ there same =>
      ⟨same, settled.field again there⟩
  given := by
    rintro role child node other name ⟨unfilled, settled⟩ member
    have again := mem_fields_unfilled unfilled settled member
    exact Field.given?_replaced Template.isSwap_unfills unfilled fun _ _ _ there same =>
      ⟨same, settled.field again there⟩
  word := by
    rintro node other ⟨unfilled, settled⟩ written read
    obtain rfl := Grammar.word_ok.mp read
    obtain rfl := unfilled.ofSettled (settled.own rfl) nofun nofun
    exact ⟨written, read, rfl⟩
  text := by
    rintro node other ⟨unfilled, _⟩ written read
    obtain ⟨again, spelled⟩ := ((Grammar.reads_text _ _).mp read).unfilled unfilled
    exact ⟨again, (Grammar.reads_text _ _).mpr spelled, nofun⟩
  size := by
    rintro node other ⟨unfilled, settled⟩ size read
    have counted := (Grammar.reads_size _ _).mp read
    obtain rfl := unfilled.ofSettled (settled.own rfl) (by rintro _ rfl; cases counted)
      (by rintro _ rfl; cases counted)
    exact ⟨size, read, rfl⟩
  flag := by
    rintro node other ⟨unfilled, settled⟩ flag read
    have flagged := (Grammar.reads_flag _ _).mp read
    obtain rfl := unfilled.ofSettled (settled.own rfl) (by rintro _ rfl; cases flagged)
      (by rintro _ rfl; cases flagged)
    exact ⟨flag, read, rfl⟩
  steps := by
    rintro node other ⟨unfilled, _⟩ steps read
    obtain ⟨again, listed⟩ := ((Grammar.reads_steps _ _).mp read).unfilled unfilled
    exact ⟨again, (Grammar.reads_steps _ _).mpr listed, nofun⟩

namespace Grammar

variable {node value : Tree} {name : String} {child : Role}

section

variable {α : Type} {form : Tree → α → Prop} {read fallback : α}
  (settles : ∀ tree value, form tree value → child.Settled tree)

include settles

theorem Mandatory.settled (given : Mandatory form node name read) :
    ∀ value, Has node name value → child.Settled value := by
  obtain ⟨tree, found, formed⟩ := given
  intro value has
  rw [has.unique found]
  exact settles tree read formed

theorem Optional.settled (given : Optional .ofNumerals form node name fallback read) :
    ∀ value, Has node name value → child.Settled value := by
  intro value has
  cases given with
  | given given => exact given.settled settles value has
  | absent lacking => exact absurd has lacking.not_has

end

theorem settled_plain {written : String} (plain : '~' ∉ written.toList) (role : Role)
    (single : role.fields (.text written) = []) : role.Settled (.text written) := by
  refine Role.settled_of_none (Template.textNames_of_unmarked fun marked => ?_) single
  exact plain (marked.subset List.mem_cons_self)

theorem Tagged.settled {tag : String} (plain : '~' ∉ tag.toList) (tagged : Tagged node tag) :
    ∀ value, Has node "type" value → Role.word.Settled value := by
  intro value has
  rw [has.unique tagged]
  exact settled_plain plain .word rfl

theorem Words.settled {α : Type} {word : α → String} (plain : ∀ value, '~' ∉ (word value).toList)
    (tree : Tree) (value : α) (spelled : Words word tree value) : Role.word.Settled tree := by
  obtain ⟨_⟩ := spelled
  exact settled_plain (plain value) .word rfl

theorem place_plain (place : Place) : '~' ∉ place.word.toList := by
  cases place <;> decide

theorem kind_plain (kind : OrderKind) : '~' ∉ kind.word.toList := by
  cases kind <;> decide

theorem criterion_plain (criterion : FilterBy) : '~' ∉ criterion.word.toList := by
  cases criterion <;> decide

theorem Spells.settled (tree : Tree) (text : String) (_ : Spells .ofNumerals tree text) :
    Role.text.Settled tree :=
  Role.settled_of_fields rfl nofun

theorem Steps.settled (tree : Tree) (steps : List String) (_ : Steps .ofNumerals tree steps) :
    Role.steps.Settled tree :=
  Role.settled_of_fields rfl nofun

theorem Counts.settled (tree : Tree) (size : Nat) (counted : Counts .ofNumerals tree size) :
    Role.size.Settled tree := by
  cases counted with
  | int => exact Role.settled_of_none rfl rfl
  | digits trimmed given digits _ =>
      refine settled_plain (fun tilde => ?_) .size rfl
      have digit := digits '~' (trimmed ▸ Text.mem_trim (by decide) tilde)
      exact absurd digit (by decide)

theorem Flags.settled (tree : Tree) (flag : Bool) (flagged : Flags tree flag) :
    Role.flag.Settled tree := by
  cases flagged with
  | bool => exact Role.settled_of_none rfl rfl
  | letters letters =>
      refine settled_plain (fun tilde => ?_) .flag rfl
      have member : '~'.toLower ∈ (toString flag).toList :=
        letters ▸ List.mem_map_of_mem (Text.mem_trim (by decide) tilde)
      cases flag <;> exact absurd member (by decide)

theorem Sources.settled (node : Tree) (source : Source)
    (sourced : Sources .ofNumerals node source) : Role.source.Settled node := by
  refine Role.settled_of_fields rfl ?_
  cases sourced with
  | pipe tagged | board tagged =>
      simpa [Role.fields, tag_ok.mpr tagged] using tagged.settled (by decide)
  | column tagged spelled =>
      simpa [Role.fields, tag_ok.mpr tagged] using
        ⟨tagged.settled (by decide), spelled.settled Spells.settled⟩

theorem Targets.settled (node : Tree) (target : Target) (aimed : Targets .ofNumerals node target) :
    Role.target.Settled node := by
  refine Role.settled_of_fields rfl ?_
  simpa [Role.fields] using
    ⟨aimed.column.settled Spells.settled, aimed.place.settled (Words.settled place_plain)⟩

theorem Cards.settled (node : Tree) (card : CardInfo) (described : Cards .ofNumerals node card) :
    Role.card.Settled node := by
  refine Role.settled_of_fields rfl ?_
  simpa [Role.fields] using
    ⟨described.name.settled Spells.settled, described.description.settled Spells.settled⟩

theorem Acts.settled {action : Action} (acting : Acts .ofNumerals node action) :
    Role.action.Settled node := by
  refine Role.settled_of_fields rfl ?_
  cases acting with
  | print tagged => simpa [Role.fields, tag_ok.mpr tagged] using tagged.settled (by decide)
  | copy tagged aimed | move tagged aimed =>
      simpa [Role.fields, tag_ok.mpr tagged] using
        ⟨tagged.settled (by decide), aimed.settled Targets.settled⟩
  | add tagged aimed described =>
      simpa [Role.fields, tag_ok.mpr tagged] using
        ⟨tagged.settled (by decide), aimed.settled Targets.settled, described.settled Cards.settled⟩

theorem Params.settled {params : Tree} (given : Params .ofNumerals node params)
    (settled : child.Settled params) : ∀ value, Has node "params" value → child.Settled value := by
  intro value has
  cases given with
  | given given =>
      obtain ⟨_, found, rfl⟩ := given
      rwa [has.unique found]
  | absent lacking => exact absurd has lacking.not_has

theorem Defines.settled {caseSensitive : Bool} {body : Body}
    (defined : Defines .ofNumerals caseSensitive node body) : Role.definition.Settled node := by
  refine Role.settled_of_fields rfl ?_
  cases defined with
  | @take params _ _ _ tagged given sourced placed sized =>
      have settled : Role.take.Settled params := by
        refine Role.settled_of_fields rfl ?_
        simpa [Role.fields] using ⟨sourced.settled Sources.settled,
          placed.settled (Words.settled place_plain), sized.settled Counts.settled⟩
      simpa [Role.fields, tag_ok.mpr tagged] using
        ⟨tagged.settled (by decide), given.settled settled⟩
  | @order params kind _ tagged given ordered sourced =>
      have settled : Role.order.Settled params := by
        refine Role.settled_of_fields rfl ?_
        simpa [Role.fields] using
          ⟨sourced.settled Sources.settled, ordered.settled (kind_plain kind)⟩
      simpa [Role.fields, tag_ok.mpr tagged] using
        ⟨tagged.settled (by decide), given.settled settled⟩
  | @filter params _ _ _ tagged given chosen spelled flagged =>
      have settled : Role.filter.Settled params := by
        refine Role.settled_of_fields rfl ?_
        simpa [Role.fields] using ⟨chosen.settled (Words.settled criterion_plain),
          spelled.settled Spells.settled, flagged.settled Flags.settled⟩
      simpa [Role.fields, tag_ok.mpr tagged] using
        ⟨tagged.settled (by decide), given.settled settled⟩
  | act tagged given acting =>
      simpa [Role.fields, tag_ok.mpr tagged] using
        ⟨tagged.settled (by decide), given.settled acting.settled⟩
  | group tagged listed | flow tagged listed =>
      simpa [Role.fields, tag_ok.mpr tagged] using
        ⟨tagged.settled (by decide), listed.settled Steps.settled⟩

end Grammar

/-- A definition that can be read once it is filled can be read as it is exactly if no placeholder
stands where a word of the language, a size or a truth value is read. -/
theorem Body.compile_unfilled_iff {node : Tree} {arguments : Arguments} {caseSensitive : Bool}
    {body : Body} (kept : Template.KeysKept arguments node)
    (compiled : compile node arguments caseSensitive = .ok body) :
    (∃ unfilled, compile node [] caseSensitive = .ok unfilled) ↔
      Role.definition.Settled (resolve [] node) := by
  obtain ⟨finite, known⟩ := compile_ok.mp compiled
  constructor
  · rintro ⟨unfilled, read⟩
    exact ((Grammar.reads_definition caseSensitive _ _).mp (compile_ok.mp read).2).settled
  · intro settled
    obtain ⟨unfilled, read, _⟩ := (respects_unfills arguments).definition
      ⟨Template.resolve_unfills node kept, settled⟩ caseSensitive body known
    exact ⟨unfilled, compile_ok.mpr ⟨finite, read⟩⟩

end Kanban
