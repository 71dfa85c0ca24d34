import Kanban.Launch
import Kanban.Proofs.Program.Loading
import Kanban.Proofs.Task.Refusals
import Kanban.Proofs.Tree.Replacing

namespace Kanban

theorem Tree.isFinite_of_entry {entries : List (Tree × Tree)} {entry : Tree × Tree}
    (finite : (Tree.map entries).isFinite = true) (member : entry ∈ entries) :
    entry.2.isFinite = true := by
  rw [isFinite_map, List.all_eq_true] at finite
  exact (Bool.and_eq_true_iff.mp (finite entry member)).2

theorem Field.holds_of_entry {tree : Tree} {entry : Tree × Tree} (member : entry ∈ entriesOf tree) :
    tree.Holds entry.1 ∧ tree.Holds entry.2 := by
  cases tree with
  | map entries => exact ⟨.key member (.self _), .value member (.self _)⟩
  | _ => cases member

def Program.ofFile (host : Host) (path : Path) (arguments : Arguments)
    (caseSensitive : Bool := false) : Except Failure Program := do
  let content ← (host.read path).mapError (.ofFile (.taskFile path.toText))
  let text ← (Host.decode content).mapError Failure.misuse
  ofYaml host.reader text arguments caseSensitive

theorem Launch.program_eq (launch : Launch σ) (arguments : Arguments) :
    launch.program arguments = (do
      let path ← (launch.settings.tasksPath launch.host).mapError Failure.misuse
      Program.ofFile launch.host path arguments launch.settings.tasks.caseSensitive.isGiven) :=
  rfl

namespace Program

def entriesOf (document : Tree) : List (Tree × Tree) :=
  Field.entriesOf document.opened

inductive Reads (document : Tree) (arguments : Arguments) : Tree → Prop where
  | document : Reads document arguments document
  | key {entry : Tree × Tree} :
      entry ∈ entriesOf document → Reads document arguments (Template.resolve arguments entry.1)
  | definition {entry : Tree × Tree} :
      entry ∈ entriesOf document → Reads document arguments (Template.resolve arguments entry.2)

inductive Blames (document : Tree) (arguments : Arguments) : Failure → Prop where
  | definition (trouble : DefinitionTrouble) :
      Blames document arguments (.trouble (.definition trouble))
  | endless : document.isFinite = false → Blames document arguments (.misuse .endless)
  | numeral {tree : Tree} :
      Reads document arguments tree → tree.HoldsLongNumeral →
        Blames document arguments (.misuse .notANumeral)

abbrev Refuses (document : Tree) (arguments : Arguments) (result : Except Failure α) : Prop :=
  FailsOnlyWith (Blames document arguments) result

section

variable {document : Tree} {arguments : Arguments}

theorem holds_of_entry {entry : Tree × Tree} (member : entry ∈ entriesOf document) :
    document.Holds entry.1 ∧ document.Holds entry.2 := by
  have opened := Field.holds_of_entry member
  cases document with
  | endless => exact ⟨.inside opened.1, .inside opened.2⟩
  | _ => exact opened

theorem endless_of_entry {entry : Tree × Tree} (member : entry ∈ entriesOf document)
    (endless : entry.2.isFinite = false) : document.isFinite = false := by
  cases document with
  | map entries =>
      rw [← Bool.not_eq_true] at endless ⊢
      exact fun finite => endless (Tree.isFinite_of_entry finite member)
  | endless => simp [Tree.isFinite]
  | _ => cases member

namespace Refuses

theorem reading {tree : Tree} (reads : Reads document arguments tree)
    {result : Except Failure α} (refuses : Field.Refuses tree result) :
    Refuses document arguments result := by
  refine refuses.mono fun failure blamed => ?_
  cases blamed with
  | definition trouble => exact .definition trouble
  | numeral long => exact .numeral reads long

theorem ofDefinition {trouble : DefinitionTrouble}
    (shown : ∀ value ∈ trouble.shownValues, value.isWritable = false →
      ∃ tree, Reads document arguments tree ∧ tree.HoldsLongNumeral) :
    Refuses document arguments (.error (.ofDefinition trouble) : Except Failure α) := by
  refine .showing (.definition trouble) fun value member long => ?_
  obtain ⟨tree, reads, holds⟩ := shown value member long
  exact .numeral reads holds

theorem finite {entry : Tree × Tree} (member : entry ∈ entriesOf document) :
    Refuses document arguments (finite entry.2) := by
  unfold Program.finite
  split
  next => exact .ok _
  next endless =>
    exact .error (.endless (endless_of_entry member (Bool.not_eq_true _ ▸ endless)))

theorem compile {entry : Tree × Tree} (member : entry ∈ entriesOf document)
    (caseSensitive : Bool) :
    Refuses document arguments (Body.compile entry.2 arguments caseSensitive) := by
  unfold Body.compile
  split
  next => exact .reading (.definition member) (Body.ofTree_fair caseSensitive _)
  next endless =>
    exact .error (.endless (endless_of_entry member (Bool.not_eq_true _ ▸ endless)))

end Refuses

def Filled (document : Tree) (arguments : Arguments) (entries : List (Tree × Tree)) : Prop :=
  ∀ entry ∈ entries, ∃ old ∈ entriesOf document,
    entry = (Template.resolve arguments old.1, old.2)

variable {written entries : List (Tree × Tree)}

theorem fillKeys_filled {done : List (Tree × Tree)} (started : Filled document arguments done)
    (held : ∀ entry ∈ written, entry ∈ entriesOf document)
    (filled : fillKeys arguments done written = .ok entries) :
    Filled document arguments entries := by
  induction written generalizing done with
  | nil =>
      cases filled
      exact started
  | cons first rest ih =>
      rw [fillKeys] at filled
      split at filled
      next => cases filled
      next =>
        refine ih ?_ (fun entry later => held entry (List.mem_cons_of_mem _ later)) filled
        intro entry member
        rcases List.mem_append.mp member with before | last
        · exact started entry before
        · exact ⟨first, held first List.mem_cons_self, List.mem_singleton.mp last⟩

theorem Filled.refuses (filled : Filled document arguments entries) {result : Except Failure α}
    (refuses : Field.Refuses (.map entries) result) : Refuses document arguments result := by
  refine refuses.mono fun failure blamed => ?_
  cases blamed with
  | definition trouble => exact .definition trouble
  | numeral long =>
      obtain ⟨part, holds, isLong⟩ := long
      cases holds with
      | self => cases isLong
      | key member holds =>
          obtain ⟨old, held, rfl⟩ := filled _ member
          exact .numeral (.key held) ⟨part, holds, isLong⟩
      | value member holds =>
          obtain ⟨old, held, rfl⟩ := filled _ member
          exact .numeral .document ⟨part, (holds_of_entry held).2.trans holds, isLong⟩

end

inductive Stumbles (host : Host) (path : Path) (arguments : Arguments) (caseSensitive : Bool) :
    Misuse → Prop where
  | unnameable :
      host.find path = .error .unnameable →
        Stumbles host path arguments caseSensitive .notANumeral
  | undecodable {content : ByteArray} :
      host.find path = .ok (.file content) → String.fromUTF8? content = none →
        Stumbles host path arguments caseSensitive .undecodable
  | value {content : ByteArray} {text : String} {cause : Misuse} :
      host.find path = .ok (.file content) → String.fromUTF8? content = some text →
        host.reader.text text = .error (.misuse cause) →
          Stumbles host path arguments caseSensitive cause
  | document {content : ByteArray} {text : String} {document : Tree} {cause : Misuse} :
      host.find path = .ok (.file content) → String.fromUTF8? content = some text →
        host.reader.text text = .ok document →
          ofDocument document arguments caseSensitive = .error (.misuse cause) →
            Blames document arguments (.misuse cause) →
              Stumbles host path arguments caseSensitive cause

section

variable {host : Host} {path : Path} {arguments : Arguments} {caseSensitive : Bool} {cause : Misuse}

end

end Program

end Kanban
