import Kanban.Proofs.Executor.Filtering
import Kanban.Proofs.Tree.Entries

namespace Kanban

open Memory (CardsNamed)

namespace Label

def isNamed (value : String) (label : Label) : Bool :=
  label.name.same (.text value)

def isNamedFolded (value : String) (label : Label) : Bool :=
  match label.name with
  | .text name => Text.caseFold name == Text.caseFold value
  | _ => false

def marks (label : Label) (card : Card) : Bool :=
  card.labelIds.any fun id => label.id.same id

variable {value : String} {label : Label}

theorem isNamed_iff : label.isNamed value ↔ label.name = .text value :=
  Tree.same_text_iff

theorem isNamedFolded_of_isNamed (named : label.isNamed value) : label.isNamedFolded value := by
  rw [isNamedFolded, isNamed_iff.mp named]
  exact beq_self_eq_true _

end Label

namespace Service

variable {value : String} {label : Label} {labels earlier : List Label}

theorem labelFolded?_cons (textual : label.name.isText) :
    labelFolded? (.text value) (label :: labels) =
      if label.isNamedFolded value then .ok (some label)
      else labelFolded? (.text value) labels := by
  unfold Label.isNamedFolded
  cases shape : label.name with
  | text name =>
      simp only [labelFolded?, shape, folded, bind, Except.bind, pure, Except.pure, beq_iff_eq]
  | _ =>
      rw [shape] at textual
      cases textual

theorem labelFolded?_found (textual : ∀ other ∈ earlier, other.name.isText)
    (named : label.isNamed value) (later : List Label) :
    ∃ picked, (earlier ++ [label]).find? (·.isNamedFolded value) = some picked ∧
      labelFolded? (.text value) (earlier ++ label :: later) = .ok (some picked) := by
  induction earlier with
  | nil =>
      have here : label.name.isText := by
        rw [Label.isNamed_iff.mp named]
        rfl
      have folds := Label.isNamedFolded_of_isNamed named
      refine ⟨label, ?_, ?_⟩
      · exact List.find?_cons_of_pos folds
      · rw [List.nil_append, labelFolded?_cons here, if_pos folds]
  | cons other earlier ih =>
      obtain ⟨picked, found, onward⟩ := ih fun next member =>
        textual next (List.mem_cons_of_mem _ member)
      rw [List.cons_append, List.cons_append, labelFolded?_cons (textual other List.mem_cons_self)]
      by_cases folds : other.isNamedFolded value
      · exact ⟨other, List.find?_cons_of_pos folds, if_pos folds⟩
      · refine ⟨picked, ?_, ?_⟩
        · rw [List.find?_cons_of_neg folds, found]
        · rw [if_neg folds, onward]

end Service

namespace Executor

variable {executor : Executor σ} {value : String} {caseSensitive : Bool} {cards kept : List Card}
  {labels : List Label} {label : Label} {world : World σ}

theorem filter_holds {criterion : FilterBy} :
    (executor.filter criterion value caseSensitive (.holding cards) world).1 =
        .ok (.holding kept) ↔
      (executor.select criterion value caseSensitive cards world).1 = .ok kept := by
  have begun : pipeCards (.holding cards) world = (.ok cards, world) := rfl
  rw [filter, Run.bind_of_ok begun, Run.bind_apply]
  rcases executor.select criterion value caseSensitive cards world with ⟨_ | chosen, later⟩
  · exact iff_of_false nofun nofun
  · change Except.ok (Pipeline.holding chosen) = _ ↔ Except.ok chosen = _
    constructor
    · intro held
      exact congrArg (fun pipeline => pipeline.map Pipeline.items) held
    · intro same
      exact congrArg (fun result => result.map Pipeline.holding) same

theorem select_named (named : CardsNamed cards) :
    (executor.select .name value caseSensitive cards world).1 =
      .ok (cards.filter (Sieve.keeps ⟨.name, value, caseSensitive⟩ [])) := by
  rw [select, keepNamed_eq value caseSensitive named]
  rfl

theorem keeps_of_caseSensitive {card : Card}
    (keeps : Sieve.keeps ⟨.name, value, true⟩ [] card = true) :
    Sieve.keeps ⟨.name, value, false⟩ [] card = true := by
  have same : card.title = value := eq_of_beq keeps
  change (Text.caseFold card.title == Text.caseFold value) = true
  rw [same]
  exact beq_self_eq_true _

theorem select_labelled
    (answered : (executor.service.labels executor.board world.service).result = .ok labels)
    (picked : Service.labelNamed? labels (.text value) caseSensitive = .ok (some label)) :
    (executor.select .label value caseSensitive cards world).1 =
      .ok (cards.filter label.marks) := by
  have asked : (Run.ask (executor.service.labels executor.board) world).1 = .ok labels := answered
  have located :
      (executor.service.findLabel executor.board (.text value) caseSensitive world).1 =
        .ok (some label) := by
    rw [Service.findLabel, Run.bind_of_ok (Prod.ext asked rfl), picked]
    rfl
  rw [select, Run.bind_of_ok (Prod.ext located rfl)]
  rfl

theorem select_labelled_done
    (done : (executor.select .label value caseSensitive cards world).1 = .ok kept) :
    ∃ labels label, (executor.service.labels executor.board world.service).result = .ok labels ∧
      Service.labelNamed? labels (.text value) caseSensitive = .ok (some label) ∧
      kept = cards.filter label.marks := by
  obtain ⟨found, between, located, keeping⟩ := Run.bind_ok (Prod.ext done rfl)
  obtain ⟨labels, asked, answered, naming⟩ := Run.bind_ok located
  have picked := (Run.ofExcept_returned naming).1
  cases found with
  | none => exact absurd (congrArg Prod.fst keeping) nofun
  | some label =>
      have same := Except.ok.inj (congrArg Prod.fst keeping)
      exact ⟨labels, label, congrArg Prod.fst answered, picked, same.symm⟩

/-- On cards that are named by texts a filter by name that ignores case keeps all that one that
minds it keeps.  By label it is done if the other one is, as long as the labels before the one that
this one picks are named by texts.  Of these labels and that one it picks the first whose name is
right but for case, and if no earlier one is so named, it keeps the same cards. -/
theorem folding_case_loosens (executor : Executor σ) (underWay : List String) (value : String)
    (cards : List Card) (world : World σ) :
    let keeps criterion caseSensitive kept :=
      (executor.evaluate (executor.enter underWay) (.filter criterion value caseSensitive)
        (.holding cards) world).1 = .ok (.holding kept)
    (CardsNamed cards → ∃ exact folded, keeps .name true exact ∧ keeps .name false folded ∧
      exact = cards.filter (fun card => card.title == value) ∧
      folded = cards.filter (fun card => Text.caseFold card.title == Text.caseFold value) ∧
      exact.Sublist folded) ∧
    ∀ exact, keeps .label true exact → ∃ earlier label later,
      (executor.service.labels executor.board world.service).result =
          .ok (earlier ++ label :: later) ∧
        label.isNamed value ∧ (∀ other ∈ earlier, ¬ other.isNamed value) ∧
        exact = cards.filter label.marks ∧
        ((∀ other ∈ earlier, other.name.isText) → ∃ picked folded,
          (earlier ++ [label]).find? (·.isNamedFolded value) = some picked ∧
            keeps .label false folded ∧ folded = cards.filter picked.marks ∧
            (exact.filter picked.marks).Sublist folded ∧
            ((∀ other ∈ earlier, ¬ other.isNamedFolded value) → folded = exact)) := by
  intro keeps
  refine ⟨fun named => ?_, fun exact done => ?_⟩
  · refine ⟨_, _, filter_holds.mpr (select_named named), filter_holds.mpr (select_named named),
      rfl, rfl, ?_⟩
    exact List.monotone_filter_right cards fun _ => keeps_of_caseSensitive
  · obtain ⟨labels, label, answered, picks, rfl⟩ := select_labelled_done (filter_holds.mp done)
    have found : labels.find? (·.isNamed value) = some label := Except.ok.inj picks
    obtain ⟨named, earlier, later, rfl, before⟩ := List.find?_eq_some_iff_append.mp found
    refine ⟨earlier, label, later, answered, named, by simpa using before, rfl, fun textual => ?_⟩
    obtain ⟨picked, first, folds⟩ := Service.labelFolded?_found textual named later
    refine ⟨picked, _, first, filter_holds.mpr (select_labelled answered folds), rfl, ?_, ?_⟩
    · exact List.filter_sublist.filter _
    · intro alone
      -- The label picked with case is the only one left that the search can end at.
      have skipped : earlier.find? (·.isNamedFolded value) = none :=
        List.find?_eq_none.mpr alone
      have own : picked = label := by
        rw [List.find?_append, skipped] at first
        simpa [Label.isNamedFolded_of_isNamed named] using first.symm
      rw [own]

/-- The label in capitals comes behind the one that is looked for, so both filters pick this one. -/
theorem folding_case_loosens_of_capitals :
    let card (name : String) (labelIds : List Tree) : Card :=
      { id := .text name, name := .text name, description := .text "", columnId := .text "c1"
        labelIds, position := 1.0, url := .text "", shortUrl := .text "" }
    let label (id name : String) : Label := { id := .text id, name := .text name, color := .null }
    let plain := card "urgent" [.text "g1"]
    let cards := [card "URGENT" [.text "g2"], plain]
    let executor := inMemory { board := "ENG", tasks := [] } (.text "b1") .standard
    let labels := [label "g0" "later", label "g1" "urgent", label "g2" "URGENT"]
    let world : World Memory :=
      { service := { labels := [(.text "b1", labels)] }, draws := { number := fun _ => 0 } }
    let keeps criterion caseSensitive kept :=
      (executor.evaluate (executor.enter []) (.filter criterion "urgent" caseSensitive)
        (.holding cards) world).1 = .ok (.holding kept)
    CardsNamed cards ∧
      (∃ folded, keeps .name true [plain] ∧ keeps .name false folded ∧ [plain].Sublist folded) ∧
      keeps .label true [plain] ∧ keeps .label false [plain] := by
  intro card label plain cards executor labels world keeps
  have named : CardsNamed cards := by
    simp [CardsNamed, cards, plain, card, Tree.isText]
  have byName : keeps .name true [plain] := by rfl
  have byLabel : keeps .label true [plain] := by rfl
  have folds : Text.caseFold "later" = "later" ∧ Text.caseFold "urgent" = "urgent" := by
    decide +kernel
  obtain ⟨ofNames, ofLabels⟩ := folding_case_loosens executor [] "urgent" cards world
  obtain ⟨exact, folded, strict, loose, -, -, within⟩ := ofNames named
  obtain rfl : [plain] = exact :=
    congrArg Pipeline.items (Except.ok.inj (byName.symm.trans strict))
  obtain ⟨earlier, found, rest, answered, foundNamed, before, -, onward⟩ := ofLabels _ byLabel
  have parts : [label "g0" "later", label "g1" "urgent", label "g2" "URGENT"] =
      earlier ++ found :: rest := Except.ok.inj answered
  rcases earlier with _ | ⟨first, _ | ⟨second, earlier⟩⟩
  · cases parts
    exact absurd foundNamed (by decide)
  · cases parts
    obtain ⟨-, kept, -, done, -, -, alone⟩ := onward (by simp [label, Tree.isText])
    have same : kept = [plain] := alone (by simp [label, Label.isNamedFolded, folds])
    exact ⟨named, ⟨folded, byName, loose, within⟩, byLabel, same ▸ done⟩
  · obtain rfl : label "g1" "urgent" = second := (List.cons.inj (List.cons.inj parts).2).1
    exact absurd (by decide) (before (label "g1" "urgent") (by simp))

/-- A filter by label that ignores case picks a label that is named otherwise but for case if it
comes first on the board, and a name that is no text has no case to be ignored. -/
theorem folding_case_tightens :
    let card (name : Tree) : Card :=
      { id := .text "k", name, description := .text "", columnId := .text "c1"
        labelIds := [.text "g2"], position := 1.0, url := .text "", shortUrl := .text "" }
    let label (id : String) (name : Tree) : Label := { id := .text id, name, color := .null }
    let executor := inMemory { board := "ENG", tasks := [] } (.text "b1") .standard
    let ends labels cards criterion caseSensitive :=
      let world : World Memory :=
        { service := { labels := [(.text "b1", labels)] }, draws := { number := fun _ => 0 } }
      (executor.evaluate (executor.enter []) (.filter criterion "urgent" caseSensitive)
        (.holding cards) world).1
    let capital := [label "g1" (.text "Urgent"), label "g2" (.text "urgent")]
    let numbered := [label "g1" (.int 7), label "g2" (.text "urgent")]
    let cards := [card (.text "a")]
    ends capital cards .label true = .ok (.holding cards) ∧
      ends capital cards .label false = .ok (.holding []) ∧
      ends [] [card .null] .name true = .ok (.holding []) ∧
      ends [] [card .null] .name false = .error (.misuse .noSuchPart) ∧
      ends numbered cards .label true = .ok (.holding cards) ∧
      ends numbered cards .label false = .error (.misuse .noSuchPart) := by
  intro card label executor ends capital numbered cards
  have folds : Text.caseFold "Urgent" = Text.caseFold "urgent" := by decide +kernel
  have picked : Service.labelNamed? capital (.text "urgent") false =
      .ok (some (label "g1" (.text "Urgent"))) := by
    rw [Service.labelNamed?, if_neg Bool.false_ne_true, Service.labelFolded?_cons (by rfl)]
    exact if_pos (beq_iff_eq.mpr folds)
  have chosen : ends capital cards .label false =
      .ok (.holding (cards.filter (label "g1" (.text "Urgent")).marks)) :=
    filter_holds.mpr (select_labelled (by rfl) picked)
  exact ⟨by rfl, chosen, by rfl, by rfl, by rfl, by rfl⟩

end Executor

end Kanban
