import Kanban.Proofs.Executor.Unstuck
import Kanban.Proofs.Run.Effects
import Kanban.Proofs.Sorting.Stable

namespace Kanban

open Memory (CardsNamed)

/-- From this world the run gives this value, and it leaves the service as it was. -/
structure Run.Yields (run : Run σ α) (world : World σ) (value : α) : Prop where
  result : (run world).1 = .ok value
  kept : (run world).2.service = world.service

namespace Run.Yields

variable {world : World σ}

theorem pure (value : α) : (Pure.pure value : Run σ α).Yields world value :=
  ⟨rfl, rfl⟩

theorem emit (events : List Event) : (Run.emit events).Yields world () :=
  ⟨rfl, rfl⟩

theorem bind {first : Run σ α} {next : α → Run σ β} {value : α} {result : β}
    (begins : first.Yields world value) (onward : (next value).Yields (first world).2 result) :
    (first >>= next).Yields world result := by
  have begun : first world = (.ok value, (first world).2) := Prod.ext begins.result rfl
  constructor
  · rw [bind_of_ok begun]
    exact onward.result
  · rw [bind_of_ok begun]
    exact onward.kept.trans begins.kept

end Run.Yields

structure Sieve where
  criterion : FilterBy
  value : String
  caseSensitive : Bool

def Sieve.body (sieve : Sieve) : Body :=
  .filter sieve.criterion sieve.value sieve.caseSensitive

def Card.title (card : Card) : String :=
  match card.name with
  | .text name => name
  | _ => ""

def Sieve.keeps (sieve : Sieve) (labels : List Label) (card : Card) : Bool :=
  match sieve.criterion with
  | .name =>
      if sieve.caseSensitive then
        card.title == sieve.value
      else
        Text.caseFold card.title == Text.caseFold sieve.value
  | .label =>
      match Service.labelNamed? labels (.text sieve.value) sieve.caseSensitive with
      | .ok (some label) => card.labelIds.any fun id => label.id.same id
      | _ => false

theorem Card.name_title {card : Card} (named : card.name.isText) :
    card.name = .text card.title := by
  unfold title
  cases shape : card.name with
  | text name => rfl
  | _ =>
      rw [shape] at named
      cases named

namespace Executor

variable {executor : Executor σ} {underWay : List String} {cards kept : List Card} {sieve : Sieve}
  {world later : World σ}

def labelsAt (executor : Executor σ) (state : σ) : List Label :=
  match (executor.service.labels executor.board state).result with
  | .ok labels => labels
  | .error _ => []

def Finds (executor : Executor σ) (sieve : Sieve) (state : σ) : Prop :=
  sieve.criterion = .label → ∃ labels label,
    (executor.service.labels executor.board state).result = .ok labels ∧
      Service.labelNamed? labels (.text sieve.value) sieve.caseSensitive = .ok (some label)

theorem keepFolded_eq (wanted : String) (named : CardsNamed cards) :
    keepFolded wanted cards =
      .ok (cards.filter fun card => Text.caseFold card.title == wanted) := by
  induction cards with
  | nil => rfl
  | cons card rest ih =>
      have others := ih fun other member => named other (List.mem_cons_of_mem _ member)
      have folded : Service.folded card.name = .ok (Text.caseFold card.title) := by
        rw [Card.name_title (named card List.mem_cons_self)]
        rfl
      simp only [keepFolded, folded, others, bind, Except.bind, pure, Except.pure,
        List.filter_cons, beq_iff_eq]

theorem keepNamed_eq (value : String) (caseSensitive : Bool) (named : CardsNamed cards) :
    keepNamed value caseSensitive cards =
      .ok (cards.filter (Sieve.keeps ⟨.name, value, caseSensitive⟩ [])) := by
  cases caseSensitive with
  | true =>
      refine congrArg Except.ok (List.filter_congr fun card member => ?_)
      rw [Card.name_title (named card member), Tree.same_text]
      rfl
  | false => exact keepFolded_eq (Text.caseFold value) named

theorem select_keeps (still : executor.service.StaysWhenRead)
    (found : executor.Finds sieve world.service) (named : CardsNamed cards) :
    (executor.select sieve.criterion sieve.value sieve.caseSensitive cards).Yields world
      (cards.filter (sieve.keeps (executor.labelsAt world.service))) := by
  obtain ⟨criterion, value, caseSensitive⟩ := sieve
  cases criterion with
  | name =>
      rw [select, keepNamed_eq value caseSensitive named]
      exact .pure _
  | label =>
      obtain ⟨labels, label, answered, picked⟩ := found rfl
      dsimp only at picked
      have asked : (Run.ask (executor.service.labels executor.board)).Yields world labels :=
        ⟨answered, still (.labels executor.board) world.service rfl⟩
      have located :
          (executor.service.findLabel executor.board (.text value) caseSensitive).Yields world
            (some label) := by
        refine asked.bind ?_
        rw [picked]
        exact .pure _
      have looked : executor.labelsAt world.service = labels := by
        rw [labelsAt, answered]
      have same : Sieve.keeps ⟨.label, value, caseSensitive⟩ labels =
          fun card => card.labelIds.any fun id => label.id.same id := by
        funext card
        simp only [Sieve.keeps, picked]
      rw [looked, same]
      exact located.bind (.pure _)

theorem filter_keeps (still : executor.service.StaysWhenRead)
    (found : executor.Finds sieve world.service) (named : CardsNamed cards) :
    (executor.filter sieve.criterion sieve.value sieve.caseSensitive (.holding cards)).Yields world
      (.holding (cards.filter (sieve.keeps (executor.labelsAt world.service)))) :=
  .bind (.pure cards) ((select_keeps still found named).bind (.bind (.emit _) (.pure _)))

def titleAtMost (left right : Card) : Bool :=
  Text.atMost left.title right.title

theorem titleAtMost_total (left right : Card) :
    (titleAtMost left right || titleAtMost right left) = true :=
  Text.charsAtMost_total _ _

theorem titleAtMost_trans (left middle right : Card) (first : titleAtMost left middle = true)
    (second : titleAtMost middle right = true) : titleAtMost left right = true :=
  Text.charsAtMost_trans first second

theorem mergeSort_named (named : CardsNamed cards) :
    cards.mergeSort nameAtMost = cards.mergeSort titleAtMost := by
  have agree : ∀ left ∈ cards, ∀ right ∈ cards, nameAtMost left right = titleAtMost left right := by
    intro left leftIn right rightIn
    rw [nameAtMost, Card.name_title (named left leftIn), Card.name_title (named right rightIn)]
    rfl
  have carried := List.map_mergeSort (f := id) agree
  simpa only [List.map_id] using carried

theorem filter_sorted (named : CardsNamed cards) (keeps : Card → Bool) :
    (cards.mergeSort nameAtMost).filter keeps = (cards.filter keeps).mergeSort nameAtMost := by
  have keptNamed : CardsNamed (cards.filter keeps) :=
    fun card member => named card (List.mem_filter.mp member).1
  rw [mergeSort_named named, mergeSort_named keptNamed]
  exact Sorting.filter_mergeSort titleAtMost_trans titleAtMost_total keeps cards

structure Ready (executor : Executor σ) (underWay : List String) (name : String) (body : Body) :
    Prop where
  defined : executor.program.body? name = some body
  outside : name ∉ underWay
  free : executor.limit.reachedAt? underWay.length = some false

/-- A step that makes a change to any pipe of cards that are named by texts. -/
structure Rearranges (executor : Executor σ) (underWay : List String) (state : σ) (step : String)
    (change : List Card → List Card) : Prop where
  named : ∀ cards, CardsNamed cards → CardsNamed (change cards)
  yields : ∀ cards world, CardsNamed cards → world.service = state →
    (executor.enter underWay (.continuing (.holding cards)) step).Yields world
      (.holding (change cards))

variable {state : σ} {step : String} {change : List Card → List Card}

theorem rearranges_of_body {body : Body} (ready : executor.Ready underWay step body)
    (named : ∀ cards, CardsNamed cards → CardsNamed (change cards))
    (evaluates : ∀ cards world, CardsNamed cards → world.service = state →
      (executor.evaluate (executor.enter (underWay ++ [step])) body (.holding cards)).Yields world
        (.holding (change cards))) :
    executor.Rearranges underWay state step change where
  named := named
  yields cards world textual same := by
    have evaluated := evaluates cards world textual same
    have entered : executor.enter underWay (.continuing (.holding cards)) step world =
        executor.evaluate (executor.enter (underWay ++ [step])) body (.holding cards) world :=
      executor.enter_evaluates ready.defined rfl ready.outside ready.free
    exact ⟨entered ▸ evaluated.result, entered ▸ evaluated.kept⟩

theorem filter_rearranges (still : executor.service.StaysWhenRead)
    (found : executor.Finds sieve state) (ready : executor.Ready underWay step sieve.body) :
    executor.Rearranges underWay state step
      (List.filter (sieve.keeps (executor.labelsAt state))) := by
  apply rearranges_of_body ready
  · exact fun cards named card member => named card (List.mem_filter.mp member).1
  · rintro cards world named rfl
    exact filter_keeps still found named

theorem sourceCards_yields : (executor.sourceCards .pipe (.holding cards)).Yields world cards :=
  .bind (.pure cards) (.bind (.emit _) (.pure _))

theorem sort_rearranges (ready : executor.Ready underWay step (.order .sort .pipe)) :
    executor.Rearranges underWay state step (List.mergeSort · nameAtMost) := by
  apply rearranges_of_body ready
  · exact fun cards named card member => named card (List.mem_mergeSort.mp member)
  · intro cards world named _
    refine sourceCards_yields.bind (.bind (.emit _) ?_)
    rw [sortByName_named named]
    exact .pure _

theorem reverse_rearranges (ready : executor.Ready underWay step (.order .reverse .pipe)) :
    executor.Rearranges underWay state step List.reverse := by
  apply rearranges_of_body ready
  · exact fun cards named card member => named card (List.mem_reverse.mp member)
  · intro cards world _ _
    exact sourceCards_yields.bind (.bind (.emit _) (.pure _))

theorem flow_rearranges {steps : List (String × (List Card → List Card))}
    (rearrange : ∀ step ∈ steps, executor.Rearranges underWay state step.1 step.2)
    (named : CardsNamed cards) (same : world.service = state) :
    (executor.evaluate (executor.enter underWay) (.flow (steps.map (·.1)))
      (.holding cards)).Yields world
        (.holding (steps.foldl (fun cards step => step.2 cards) cards)) := by
  change (flow (executor.enter underWay) (steps.map (·.1)) (.holding cards)).Yields world _
  induction steps generalizing cards world with
  | nil => exact .pure _
  | cons step rest ih =>
      have here := rearrange step List.mem_cons_self
      have turned := here.yields cards (Run.info s!"Execute a step: {step.1}" world).2 named same
      refine .bind (.emit _) (turned.bind ?_)
      apply ih
      · exact fun other member => rearrange other (List.mem_cons_of_mem _ member)
      · exact here.named cards named
      · exact turned.kept.trans same

theorem pair_rearranges {other : String} {onward : List Card → List Card}
    (first : executor.Rearranges underWay state step change)
    (second : executor.Rearranges underWay state other onward) (named : CardsNamed cards)
    (same : world.service = state) :
    (executor.evaluate (executor.enter underWay) (.flow [step, other]) (.holding cards)).Yields
      world (.holding (onward (change cards))) := by
  have both : ∀ named ∈ [(step, change), (other, onward)],
      executor.Rearranges underWay state named.1 named.2 := by
    simp [first, second]
  exact flow_rearranges both named same

/-- A filter keeps the cards that pass its test, in the order of the pipe and as often as they are
in it.  To filter twice is to filter once, and it makes no difference which of two filters comes
first, nor whether a filter comes before sorting or reversing the pipe, or after it. -/
theorem filters_select_and_commute (executor : Executor σ)
    (still : executor.service.StaysWhenRead) {underWay : List String} {f g s r : String}
    {one two : Sieve} (oneReady : executor.Ready underWay f one.body)
    (twoReady : executor.Ready underWay g two.body)
    (sorts : executor.Ready underWay s (.order .sort .pipe))
    (reverses : executor.Ready underWay r (.order .reverse .pipe)) (world : World σ)
    (oneFound : executor.Finds one world.service) (twoFound : executor.Finds two world.service)
    {cards : List Card} (named : CardsNamed cards) :
    let flow steps := executor.evaluate (executor.enter underWay) (.flow steps) (.holding cards)
    let passes := one.keeps (executor.labelsAt world.service)
    let passesToo := two.keeps (executor.labelsAt world.service)
    let kept := cards.filter passes
    (flow [f]).Yields world (.holding kept) ∧
    (flow [f, f]).Yields world (.holding kept) ∧
    (∃ both, both = cards.filter (fun card => passes card && passesToo card) ∧
      (flow [f, g]).Yields world (.holding both) ∧ (flow [g, f]).Yields world (.holding both)) ∧
    ((flow [f, s]).Yields world (.holding (kept.mergeSort nameAtMost)) ∧
      (flow [s, f]).Yields world (.holding (kept.mergeSort nameAtMost))) ∧
    ((flow [f, r]).Yields world (.holding kept.reverse) ∧
      (flow [r, f]).Yields world (.holding kept.reverse)) := by
  intro flow passes passesToo kept
  have first := filter_rearranges still oneFound oneReady
  have second := filter_rearranges still twoFound twoReady
  have sorted : executor.Rearranges underWay world.service s _ := sort_rearranges sorts
  have reversed : executor.Rearranges underWay world.service r _ := reverse_rearranges reverses
  have alone : ∀ step ∈ [(f, List.filter passes)],
      executor.Rearranges underWay world.service step.1 step.2 := by
    simpa using first
  have again : kept.filter passes = kept := by
    simp only [kept, List.filter_filter, Bool.and_self]
  have oneThenTwo : kept.filter passesToo =
      cards.filter fun card => passes card && passesToo card := by
    simp only [kept, List.filter_filter, Bool.and_comm]
  have twoThenOne : (cards.filter passesToo).filter passes =
      cards.filter fun card => passes card && passesToo card :=
    List.filter_filter ..
  refine ⟨flow_rearranges alone named rfl, ?_, ⟨_, rfl, ?_, ?_⟩, ⟨?_, ?_⟩, ?_, ?_⟩
  · exact again ▸ pair_rearranges first first named rfl
  · exact oneThenTwo ▸ pair_rearranges first second named rfl
  · exact twoThenOne ▸ pair_rearranges second first named rfl
  · exact pair_rearranges first sorted named rfl
  · exact filter_sorted named passes ▸ pair_rearranges sorted first named rfl
  · exact pair_rearranges first reversed named rfl
  · exact List.filter_reverse .. ▸ pair_rearranges reversed first named rfl

/-- A filter by name that ignores case and one by label, on a pipe that has a card twice. -/
theorem filters_select_and_commute_of_two :
    let label : Label := { id := .text "g", name := .text "urgent", color := .null }
    let card (name : String) (labelIds : List Tree) : Card :=
      { id := .text name, name := .text name, description := .text "", columnId := .text "c1"
        labelIds, position := 1.0, url := .text "", shortUrl := .text "" }
    let beta := card "Beta" [.text "g"]
    let cards := [beta, card "alpha" [], card "beta" [], beta]
    let named : Sieve := ⟨.name, "BETA", false⟩
    let labelled : Sieve := ⟨.label, "urgent", true⟩
    let program : Program :=
      { board := "ENG"
        tasks := [("named", named.body), ("labelled", labelled.body),
          ("sort", .order .sort .pipe), ("reverse", .order .reverse .pipe)] }
    let executor := inMemory program (.text "b1") .standard
    let world : World Memory :=
      { service := { labels := [(.text "b1", [label])] }, draws := { number := fun _ => 0 } }
    let flow steps := executor.evaluate (executor.enter []) (.flow steps) (.holding cards)
    executor.Finds named world.service ∧ executor.Finds labelled world.service ∧
      CardsNamed cards ∧ (flow ["named"]).Yields world (.holding [beta, card "beta" [], beta]) ∧
      (flow ["labelled", "named"]).Yields world (.holding [beta, beta]) ∧
      (flow ["reverse", "named"]).Yields world (.holding [beta, card "beta" [], beta]) := by
  intro label card beta cards named labelled program executor world flow
  have foundNamed : executor.Finds named world.service := by
    intro byLabel
    cases byLabel
  have found : executor.Finds labelled world.service :=
    fun _ => ⟨[label], label, by rfl, by rfl⟩
  have textual : CardsNamed cards := by
    simp [CardsNamed, cards, beta, card, Tree.isText]
  have ready (name : String) (body : Body) (defined : executor.program.body? name = some body) :
      executor.Ready [] name body :=
    ⟨defined, List.not_mem_nil, by rfl⟩
  obtain ⟨once, -, ⟨_, rfl, -, both⟩, -, -, turned⟩ :=
    filters_select_and_commute executor Memory.service_staysWhenRead
      (ready "named" named.body (by rfl)) (ready "labelled" labelled.body (by rfl))
      (ready "sort" _ (by rfl)) (ready "reverse" _ (by rfl)) world foundNamed found textual
  have folded : Text.caseFold "Beta" = "beta" ∧ Text.caseFold "alpha" = "alpha" ∧
      Text.caseFold "beta" = "beta" ∧ Text.caseFold "BETA" = "beta" := by
    decide +kernel
  have looked : executor.labelsAt world.service = [label] := by rfl
  have picked : Service.labelNamed? [label] (.text "urgent") true = .ok (some label) := by rfl
  have same : label.id.same (.text "g") = true := by rfl
  have tests (other : Card) : named.keeps [label] other = (Text.caseFold other.title == "beta") ∧
      labelled.keeps [label] other = other.labelIds.any fun id => label.id.same id := by
    simp [Sieve.keeps, named, labelled, picked, folded]
  have namedKept : cards.filter (named.keeps [label]) = [beta, card "beta" [], beta] := by
    simp [cards, beta, card, tests, Card.title, folded]
  have bothKept : cards.filter (fun other => named.keeps [label] other &&
      labelled.keeps [label] other) = [beta, beta] := by
    simp [cards, beta, card, tests, Card.title, folded, same]
  rw [looked, namedKept] at once turned
  rw [looked, bothKept] at both
  exact ⟨foundNamed, found, textual, once, both, turned⟩

end Executor

end Kanban
