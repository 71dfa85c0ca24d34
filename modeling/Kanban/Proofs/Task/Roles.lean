import Kanban.Proofs.Task.Reading

/-!
What is read of a definition, and as what.  Each node has a role, which names the fields that are
read of it and gives their values roles of their own.  Two definitions that are alike wherever they
are read are read alike, in whatever sense results are compared.
-/
namespace Kanban

/-- The value of a field, if there is one. -/
def Field.given? (node : Tree) (name : String) : Except Failure (Option Tree) :=
  withDefault node name (fun value => .ok (some value)) none

theorem Field.withDefault_eq {α : Type} (node : Tree) (name : String)
    (read : Tree → Except Failure α) (fallback : α) :
    withDefault node name read fallback =
      given? node name >>= fun found =>
        match found with
        | some value => read value
        | none => .ok fallback := by
  simp only [given?, withDefault]
  split
  next => rfl
  next => split <;> rfl
  next => rfl

/-- What a part of a definition is read as: a word of the language, free text, a size, a truth
value, the names of steps, or a mapping of its own kind. -/
inductive Role where
  | word
  | text
  | size
  | flag
  | steps
  | source
  | target
  | card
  | take
  | order
  | filter
  | action
  | definition
  deriving DecidableEq, Repr

namespace Role

/-- The fields that are read of a node, and what their values are read as.  What a node has beside
its tag may depend on the tag. -/
def fields (role : Role) (node : Tree) : List (String × Role) :=
  match role with
  | source =>
      ("type", word) ::
        match Field.tag node with
        | .ok "column" => [("source", text)]
        | _ => []
  | target => [("column", text), ("place", word)]
  | card => [("name", text), ("desc", text)]
  | take => [("from", source), ("place", word), ("size", size)]
  | order => [("from", source), ("type", word)]
  | filter => [("by", word), ("rhs", text), ("case", flag)]
  | action =>
      ("type", word) ::
        match Field.tag node with
        | .ok "copy" => [("to", target)]
        | .ok "move" => [("to", target)]
        | .ok "add" => [("to", target), ("card", card)]
        | _ => []
  | definition =>
      ("type", word) ::
        match Field.tag node with
        | .ok "take" => [("params", take)]
        | .ok "order" => [("params", order)]
        | .ok "filter" => [("params", filter)]
        | .ok "action" => [("params", action)]
        | .ok "group" => [("params", steps)]
        | .ok "flow" => [("params", steps)]
        | _ => []
  | word | text | size | flag | steps => []

variable {role child : Role} {node other : Tree} {name : String}

theorem mem_fields (member : (name, child) ∈ role.fields node) :
    (∀ other, (name, child) ∈ role.fields other) ∨
      (∀ other, ("type", word) ∈ role.fields other) ∧
      ∃ tag, Field.tag node = .ok tag ∧
        ∀ other, Field.tag other = .ok tag → (name, child) ∈ role.fields other := by
  cases role with
  | source | action | definition =>
      rw [fields, List.mem_cons] at member
      rcases member with here | member
      · left
        intro other
        rw [here]
        exact List.mem_cons_self
      · right
        refine ⟨fun other => List.mem_cons_self, ?_⟩
        cases read : Field.tag node with
        | error failure =>
            rw [read] at member
            cases member
        | ok tag =>
            refine ⟨tag, rfl, fun other same => List.mem_cons_of_mem _ ?_⟩
            rwa [same, ← read]
  | _ => exact .inl fun _ => member

end Role

/-- A sense in which the results of two readings agree, given when their values do.  Free text may
count in it or not. -/
structure Comparison where
  textCounts : Prop
  Agree : {α : Type} → (α → α → Prop) → Except Failure α → Except Failure α → Prop
  ok {α : Type} {Like : α → α → Prop} {value other : α} :
    Like value other → Agree Like (.ok value) (.ok other)
  error {α : Type} {Like : α → α → Prop} (failure : Failure) :
    Agree Like (.error failure) (.error failure)
  bind {α β : Type} {Like : α → α → Prop} {Onward : β → β → Prop}
    {result other : Except Failure α} {next after : α → Except Failure β} :
    Agree Like result other →
      (∀ value value', result = .ok value → other = .ok value' → Like value value' →
        Agree Onward (next value) (after value')) →
      Agree Onward (result >>= next) (other >>= after)

namespace Comparison

variable (comparison : Comparison)

def Like {α : Type} (value other : α) : Prop :=
  comparison.textCounts → value = other

variable {comparison} {α β γ : Type}

theorem like_of_eq {value other : α} (same : value = other) : comparison.Like value other :=
  fun _ => same

theorem Like.built {value other : α} {second later : β} (make : α → β → γ)
    (first : comparison.Like value other) (onward : comparison.Like second later) :
    comparison.Like (make value second) (make other later) := by
  intro counts
  rw [first counts, onward counts]

theorem Like.made {value other : α} (make : α → β) (same : comparison.Like value other) :
    comparison.Like (make value) (make other) :=
  fun counts => congrArg make (same counts)

theorem agree_self {Like : α → α → Prop} (like : ∀ value, Like value value)
    (result : Except Failure α) : comparison.Agree Like result result := by
  cases result with
  | error failure => exact comparison.error failure
  | ok value => exact comparison.ok (like value)

/-- Nodes that are alike in a role have fields and values that are read alike. -/
structure Respects (comparison : Comparison) (Alike : Role → Tree → Tree → Prop) : Prop where
  required {role child : Role} {node other : Tree} {name : String} :
    Alike role node other → (name, child) ∈ role.fields node →
      comparison.Agree (Alike child) (Field.required node name) (Field.required other name)
  given {role child : Role} {node other : Tree} {name : String} :
    Alike role node other → (name, child) ∈ role.fields node →
      comparison.Agree (Option.Rel (Alike child)) (Field.given? node name) (Field.given? other name)
  word {node other : Tree} :
    Alike .word node other → comparison.Agree Eq (Field.word node) (Field.word other)
  text {node other : Tree} :
    Alike .text node other →
      comparison.Agree comparison.Like (Field.text node) (Field.text other)
  size {node other : Tree} :
    Alike .size node other → comparison.Agree Eq (Field.size node) (Field.size other)
  flag {node other : Tree} :
    Alike .flag node other → comparison.Agree Eq (Field.flag node) (Field.flag other)
  steps {node other : Tree} :
    Alike .steps node other →
      comparison.Agree comparison.Like (Field.steps node) (Field.steps other)

namespace Respects

variable {Alike : Role → Tree → Tree → Prop} (respects : comparison.Respects Alike)
  {role child : Role} {node other : Tree} {name : String}

include respects

theorem mandatory {Like : α → α → Prop} {Onward : β → β → Prop} {read : Tree → Except Failure α}
    (reads : ∀ value value', Alike child value value' →
      comparison.Agree Like (read value) (read value'))
    (alike : Alike role node other) (isRead : (name, child) ∈ role.fields node)
    {next after : α → Except Failure β}
    (onward : ∀ value value', Like value value' →
      comparison.Agree Onward (next value) (after value')) :
    comparison.Agree Onward (Field.required node name >>= fun part => read part >>= next)
      (Field.required other name >>= fun part => read part >>= after) :=
  comparison.bind (respects.required alike isRead) fun value value' _ _ same =>
    comparison.bind (reads value value' same) fun read read' _ _ like => onward read read' like

theorem withDefault {Like : α → α → Prop} {read : Tree → Except Failure α}
    (reads : ∀ value value', Alike child value value' →
      comparison.Agree Like (read value) (read value'))
    (alike : Alike role node other) (isRead : (name, child) ∈ role.fields node) {fallback : α}
    (like : Like fallback fallback) :
    comparison.Agree Like (Field.withDefault node name read fallback)
      (Field.withDefault other name read fallback) := by
  rw [Field.withDefault_eq, Field.withDefault_eq other]
  refine comparison.bind (respects.given alike isRead) fun found found' _ _ same => ?_
  cases same with
  | some same => exact reads _ _ same
  | none => exact comparison.ok like

theorem tag (alike : Alike role node other) (isRead : ("type", .word) ∈ role.fields node) :
    comparison.Agree Eq (Field.tag node) (Field.tag other) :=
  comparison.bind (respects.required alike isRead) fun _ _ _ _ same => respects.word same

end Respects

theorem choice_agree {value : String} {ofWord? : String → Option α} :
    comparison.Agree Eq (Field.choice ofWord? value) (Field.choice ofWord? value) :=
  agree_self (fun _ => rfl) _

theorem unknown_agree {Like : α → α → Prop} {tag : String} :
    comparison.Agree Like (.error (.ofDefinition (.unknownTag tag)))
      (.error (.ofDefinition (.unknownTag tag))) :=
  comparison.error _

namespace Respects

variable {Alike : Role → Tree → Tree → Prop} (respects : comparison.Respects Alike)
  {node other : Tree}

include respects

theorem place (alike : Alike .word node other) :
    comparison.Agree Eq (Place.ofTree node) (Place.ofTree other) := by
  refine comparison.bind (respects.word alike) fun written _ _ _ same => ?_
  obtain rfl := same
  exact choice_agree

theorem source (alike : Alike .source node other) :
    comparison.Agree comparison.Like (Source.ofTree node) (Source.ofTree other) := by
  refine comparison.bind (respects.tag alike (by simp [Role.fields])) fun tag _ tagged _ same => ?_
  obtain rfl := same
  split
  next => exact comparison.ok (like_of_eq rfl)
  next => exact comparison.ok (like_of_eq rfl)
  next =>
    exact respects.mandatory (fun _ _ => respects.text) alike (by simp [Role.fields, tagged])
      fun name name' like => comparison.ok (like.made Source.column)
  next => exact unknown_agree

theorem target (alike : Alike .target node other) :
    comparison.Agree comparison.Like (Target.ofTree node) (Target.ofTree other) := by
  refine respects.mandatory (fun _ _ => respects.text) alike (by simp [Role.fields])
    fun column column' columns => ?_
  refine comparison.bind (respects.withDefault (fun _ _ => respects.place) alike
    (by simp [Role.fields]) rfl) fun place place' _ _ places => ?_
  exact comparison.ok (columns.built Target.mk (like_of_eq places))

theorem card (alike : Alike .card node other) :
    comparison.Agree comparison.Like (CardInfo.ofTree node) (CardInfo.ofTree other) := by
  refine respects.mandatory (fun _ _ => respects.text) alike (by simp [Role.fields])
    fun name name' names => ?_
  refine comparison.bind (respects.withDefault (fun _ _ => respects.text) alike
    (by simp [Role.fields]) (like_of_eq rfl)) fun description description' _ _ descriptions => ?_
  exact comparison.ok (names.built CardInfo.mk descriptions)

theorem action (alike : Alike .action node other) :
    comparison.Agree comparison.Like (Action.ofTree node) (Action.ofTree other) := by
  refine comparison.bind (respects.tag alike (by simp [Role.fields])) fun tag _ tagged _ same => ?_
  obtain rfl := same
  split
  next => exact comparison.ok (like_of_eq rfl)
  next =>
    exact respects.mandatory (fun _ _ => respects.target) alike (by simp [Role.fields, tagged])
      fun target target' like => comparison.ok (like.made Action.copy)
  next =>
    exact respects.mandatory (fun _ _ => respects.target) alike (by simp [Role.fields, tagged])
      fun target target' like => comparison.ok (like.made Action.move)
  next =>
    refine respects.mandatory (fun _ _ => respects.target) alike (by simp [Role.fields, tagged])
      fun target target' targets => ?_
    exact respects.mandatory (fun _ _ => respects.card) alike (by simp [Role.fields, tagged])
      fun card card' cards => comparison.ok (targets.built Action.add cards)
  next => exact unknown_agree

theorem take (alike : Alike .take node other) :
    comparison.Agree comparison.Like (Body.takeOfTree node) (Body.takeOfTree other) := by
  refine comparison.bind (respects.withDefault (fun _ _ => respects.source) alike
    (by simp [Role.fields]) (like_of_eq rfl)) fun source source' _ _ sources => ?_
  refine comparison.bind (respects.withDefault (fun _ _ => respects.place) alike
    (by simp [Role.fields]) rfl) fun place place' _ _ places => ?_
  refine comparison.bind (respects.withDefault (fun _ _ => respects.size) alike
    (by simp [Role.fields]) rfl) fun size size' _ _ sizes => ?_
  obtain rfl := places
  obtain rfl := sizes
  exact comparison.ok (sources.made (Body.take · size place))

theorem order (alike : Alike .order node other) :
    comparison.Agree comparison.Like (Body.orderOfTree node) (Body.orderOfTree other) := by
  refine comparison.bind (respects.withDefault (fun _ _ => respects.source) alike
    (by simp [Role.fields]) (like_of_eq rfl)) fun source source' _ _ sources => ?_
  refine comparison.bind (respects.tag alike (by simp [Role.fields])) fun tag _ _ _ same => ?_
  obtain rfl := same
  refine comparison.bind choice_agree fun kind kind' _ _ kinds => ?_
  exact comparison.ok ((like_of_eq kinds).built Body.order sources)

theorem filter (alike : Alike .filter node other) (caseSensitive : Bool) :
    comparison.Agree comparison.Like (Body.filterOfTree node caseSensitive)
      (Body.filterOfTree other caseSensitive) := by
  refine comparison.bind (respects.withDefault (fun _ _ => respects.word) alike
    (by simp [Role.fields]) rfl) fun written _ _ _ same => ?_
  obtain rfl := same
  refine comparison.bind choice_agree fun criterion criterion' _ _ criteria => ?_
  refine respects.mandatory (fun _ _ => respects.text) alike (by simp [Role.fields])
    fun value value' values => ?_
  refine comparison.bind (respects.withDefault (fun _ _ => respects.flag) alike
    (by simp [Role.fields]) rfl) fun sensitive sensitive' _ _ flags => ?_
  obtain rfl := flags
  exact comparison.ok ((like_of_eq criteria).built (Body.filter · · sensitive) values)

theorem params {child : Role} {read : Tree → Except Failure Body}
    (reads : ∀ value value', Alike child value value' →
      comparison.Agree comparison.Like (read value) (read value'))
    (alike : Alike .definition node other)
    (isRead : ("params", child) ∈ Role.fields .definition node) :
    comparison.Agree comparison.Like (Field.withDefault node "params" .ok (.map []) >>= read)
      (Field.withDefault other "params" .ok (.map []) >>= read) := by
  have given : comparison.Agree
      (fun params params' => Alike child params params' ∨ params = params')
      (Field.withDefault node "params" .ok (.map []))
      (Field.withDefault other "params" .ok (.map [])) :=
    respects.withDefault (fun _ _ same => comparison.ok (.inl same)) alike isRead (.inr rfl)
  refine comparison.bind given fun params params' _ _ same => ?_
  rcases same with same | rfl
  · exact reads params params' same
  · exact agree_self (fun _ => like_of_eq rfl) (read params)

theorem definition (alike : Alike .definition node other) (caseSensitive : Bool) :
    comparison.Agree comparison.Like (Body.ofTree node caseSensitive)
      (Body.ofTree other caseSensitive) := by
  refine comparison.bind (respects.tag alike (by simp [Role.fields])) fun tag _ tagged _ same => ?_
  obtain rfl := same
  dsimp only
  split
  next => exact respects.params (fun _ _ => respects.take) alike (by simp [Role.fields, tagged])
  next => exact respects.params (fun _ _ => respects.order) alike (by simp [Role.fields, tagged])
  next =>
    exact respects.params (fun _ _ same => respects.filter same caseSensitive) alike
      (by simp [Role.fields, tagged])
  next =>
    have acts : ∀ params params', Alike .action params params' →
        comparison.Agree comparison.Like (Action.ofTree params >>= fun action => .ok (.act action))
          (Action.ofTree params' >>= fun action => .ok (Body.act action)) :=
      fun _ _ same => comparison.bind (respects.action same) fun _ _ _ _ like =>
        comparison.ok (like.made Body.act)
    exact respects.params acts alike (by simp [Role.fields, tagged])
  next =>
    exact respects.mandatory (fun _ _ => respects.steps) alike (by simp [Role.fields, tagged])
      fun steps steps' like => comparison.ok (like.made Body.group)
  next =>
    exact respects.mandatory (fun _ _ => respects.steps) alike (by simp [Role.fields, tagged])
      fun steps steps' like => comparison.ok (like.made Body.flow)
  next => exact unknown_agree

end Respects

end Comparison

end Kanban
