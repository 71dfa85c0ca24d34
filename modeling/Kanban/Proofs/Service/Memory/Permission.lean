import Kanban.Proofs.Service.Memory.Identity

namespace Kanban

namespace Memory

def HasColumn (memory : Memory) (board id : Tree) : Prop :=
  (memory.columnsOf board).any fun column => id.same column.id

/-- No identifier is that of columns of different boards. -/
def ColumnsApart (memory : Memory) : Prop :=
  ∀ id first second, memory.HasColumn first id → memory.HasColumn second id →
    first.same second = true

def Names (memory : Memory) (board id : Tree) : Prop :=
  ∃ card ∈ memory.cardsOf board, card.id = id ∧ memory.cardNamed? id = some card

/-- The calls that keep to a board: a write names one of its columns, and the card that it moves or
copies is in a column of it. -/
def Permits (memory : Memory) (board : Tree) : BoardCall → Prop
  | .create draft =>
      (∃ column ∈ memory.columnsOf board, column.id = draft.column) ∧
        (draft.source ≠ .null → memory.Names board draft.source)
  | .move id target _ =>
      (∃ column ∈ memory.columnsOf board, column.id = target) ∧ memory.Names board id
  | _ => True

/-- Every call among events is permitted when it is made. -/
def PermitsAll (board : Tree) : Memory → List Event → Prop
  | _, [] => True
  | memory, .call call :: rest =>
      memory.Permits board call ∧ PermitsAll board (memory.after call) rest
  | memory, .log .. :: rest | memory, .request _ :: rest => PermitsAll board memory rest

variable {memory : Memory} {board : Tree} {events more : List Event}

theorem permits_of_read {call : BoardCall} (read : call.isWrite = false) :
    memory.Permits board call := by
  cases call with
  | boards | columns | cards | cardsIn | labels => trivial
  | create | move => cases read

theorem permitsAll_append :
    memory.PermitsAll board (events ++ more) ↔
      memory.PermitsAll board events ∧ (memory.replay events).PermitsAll board more := by
  induction events generalizing memory with
  | nil => simp [PermitsAll]
  | cons event rest ih =>
      cases event with
      | log | request => exact ih
      | call call =>
          rw [List.cons_append, PermitsAll, PermitsAll, ih, and_assoc]
          rfl

theorem permitsAll_of_reads (reads : ∀ event ∈ events, event.isWrite = false) :
    memory.PermitsAll board events := by
  induction events generalizing memory with
  | nil => trivial
  | cons event rest ih =>
      have restReads : ∀ other ∈ rest, other.isWrite = false := fun other member =>
        reads other (by simp [member])
      cases event with
      | log | request => exact ih restReads
      | call call => exact ⟨permits_of_read (reads (.call call) List.mem_cons_self), ih restReads⟩

theorem PermitsAll.at {call : BoardCall} (permitted : memory.PermitsAll board events)
    (split : events = more ++ .call call :: rest) : (memory.replay more).Permits board call := by
  rw [split, permitsAll_append] at permitted
  exact permitted.2.1

@[simp] theorem columnsOf_replay (memory : Memory) (events : List Event) (board : Tree) :
    (memory.replay events).columnsOf board = memory.columnsOf board := by
  obtain ⟨_, _, replayed⟩ := memory.replay_frame events
  rw [replayed]
  rfl

@[simp] theorem columnsOf_after (memory : Memory) (call : BoardCall) (board : Tree) :
    (memory.after call).columnsOf board = memory.columnsOf board :=
  memory.columnsOf_replay [.call call] board

@[simp] theorem hasColumn_after (memory : Memory) (call : BoardCall) (board id : Tree) :
    (memory.after call).HasColumn board id ↔ memory.HasColumn board id := by
  simp [HasColumn]

theorem mem_cardsOf {card : Card} :
    card ∈ memory.cardsOf board ↔ card ∈ memory.cards ∧ memory.HasColumn board card.columnId :=
  List.mem_filter

theorem Identified.names {card : Card} (identified : memory.Identified)
    (present : card ∈ memory.cardsOf board) : memory.Names board card.id :=
  ⟨card, present, rfl, identified.cardNamed? (mem_cardsOf.mp present).1⟩

theorem mem_cards_after {call : BoardCall} {card : Card} (present : card ∈ memory.cards)
    (spared : ∀ id target position, call = .move id target position → card.id.same id = false) :
    card ∈ (memory.after call).cards := by
  have becoming := memory.after_becoming call
  generalize memory.after call = next at becoming ⊢
  cases becoming with
  | read | refused => exact present
  | appended => exact List.mem_append_left _ present
  | @replaced id target position moved landed found =>
      obtain ⟨before, after, split, replaced⟩ := replaceCard_split found
      have same : moved.id.same id = true := by simpa using List.find?_some found
      have other : card ≠ moved := by
        rintro rfl
        simp [spared id target position rfl] at same
      rw [split] at present
      simp only [replacing, counted, replaced]
      simp only [List.mem_append, List.mem_cons, other, false_or] at present ⊢
      rcases present with before | after
      · exact Or.inl before
      · exact Or.inr (Or.inr after)

theorem Current.after {cards : List Card} {call : BoardCall} (current : memory.Current board cards)
    (spared : ∀ card ∈ cards, ∀ id target position, call = .move id target position →
      card.id.same id = false) : (memory.after call).Current board cards where
  apart := current.apart
  present card member := by
    obtain ⟨present, inside⟩ := mem_cardsOf.mp (current.present card member)
    exact mem_cardsOf.mpr
      ⟨mem_cards_after present (spared card member), (memory.hasColumn_after _ _ _).mpr inside⟩

theorem getElem?_after {call : BoardCall} {card : Card} {index : Nat}
    (permitted : memory.Permits board call) (there : memory.cards[index]? = some card)
    (foreign : ¬ memory.HasColumn board card.columnId) :
    (memory.after call).cards[index]? = some card := by
  have becoming := memory.after_becoming call
  generalize memory.after call = next at becoming ⊢
  cases becoming with
  | read | refused => exact there
  | appended =>
      obtain ⟨inside, _⟩ := List.getElem?_eq_some_iff.mp there
      simp only [appending, counted, List.getElem?_append_left inside]
      exact there
  | @replaced id target position moved landed found =>
      obtain ⟨named, ours, _, same⟩ := permitted.2
      rw [found] at same
      cases same
      obtain ⟨before, after, split, replaced⟩ := replaceCard_split found
      simp only [replacing, counted, replaced]
      simp only [split, List.getElem?_append, List.getElem?_cons] at there ⊢
      split at there
      next => simp_all
      next =>
        split at there
        next =>
          cases there
          exact absurd (mem_cardsOf.mp ours).2 foreign
        next => simp_all

theorem getElem?_replay {card : Card} {index : Nat} (permitted : memory.PermitsAll board events)
    (there : memory.cards[index]? = some card)
    (foreign : ¬ memory.HasColumn board card.columnId) :
    (memory.replay events).cards[index]? = some card := by
  induction events generalizing memory with
  | nil => exact there
  | cons event rest ih =>
      cases event with
      | log | request => exact ih permitted there foreign
      | call call =>
          exact ih permitted.2 (getElem?_after permitted.1 there foreign)
            (mt (memory.hasColumn_after call _ _).mp foreign)

end Memory

namespace Run

def Permitted (board : Tree) (run : Run Memory α) (world : World Memory) : Prop :=
  ∃ events, world.LeadsTo events (run world).2 ∧ world.service.PermitsAll board events

namespace Permitted

variable {board : Tree} {world : World Memory}

theorem of_alike {licence : Licence} {right : Service τ} {run : Run Memory α} {other : Run τ α}
    (alike : Alike licence Memory.service right run other) (reads : ¬ licence.writes) :
    Permitted board run world := by
  obtain ⟨events, leads, licensed⟩ := alike.replays world
  refine ⟨events, leads, Memory.permitsAll_of_reads fun event member => ?_⟩
  rw [← Bool.not_eq_true]
  exact fun write => reads (licensed event member write)

theorem pure (value : α) : Permitted board (Pure.pure value) world :=
  ⟨[], .refl world, trivial⟩

theorem fail (failure : Failure) : Permitted board (Run.fail failure : Run Memory α) world :=
  ⟨[], .refl world, trivial⟩

theorem ofExcept (wrap : ε → Failure) (result : Except ε α) :
    Permitted board (Run.ofExcept wrap result) world := by
  cases result with
  | ok value => exact .pure value
  | error cause => exact .fail (wrap cause)

theorem info (message : String) : Permitted board (Run.info message) world :=
  ⟨[.info message], .info world message, trivial⟩

theorem ask (call : Service.Call α) (permitted : world.service.Permits board call.recorded) :
    Permitted board (Run.ask (Memory.service.answer call)) world :=
  ⟨[.call call.recorded], .ask world call, permitted, trivial⟩

theorem create {draft : Draft} (permitted : world.service.Permits board (.create draft)) :
    Permitted board (Run.ask (Memory.service.create draft)) world :=
  .ask (.create draft) permitted

theorem bind {first : Run Memory α} {next : α → Run Memory β}
    (permitted : Permitted board first world)
    (onward : ∀ value between, first world = (.ok value, between) →
      Permitted board (next value) between) : Permitted board (first >>= next) world := by
  obtain ⟨events, leads, all⟩ := permitted
  rcases ended : first world with ⟨failure | value, between⟩
  · refine ⟨events, ?_, all⟩
    rwa [bind_of_error ended, ← congrArg Prod.snd ended]
  · obtain ⟨more, leadsOn, allOn⟩ := onward value between ended
    rw [ended] at leads
    refine ⟨events ++ more, ?_, Memory.permitsAll_append.mpr ⟨all, leads.service ▸ allOn⟩⟩
    rw [bind_of_ok ended]
    exact leads.trans leadsOn

end Permitted

theorem Alike.missing_moved {licence : Licence} {right : Service τ} {run : Run Memory α}
    {other : Run τ α} {id : Tree} {world : World Memory}
    (alike : Alike licence Memory.service right run other)
    (own : ¬ licence.fails (.ofRun (.cardMissing id)))
    (failed : (run world).1 = .error (.ofRun (.cardMissing id))) :
    ∃ before target position,
      world.LeadsTo (before ++ [.call (.move id target position)]) (run world).2 ∧
        (world.service.replay before).cardNamed? id = none := by
  induction alike generalizing world with
  | pure | emit | draw => cases failed
  | fail raised =>
      cases failed
      exact absurd raised own
  | @bind α β first other next follow alike alikeNext ihFirst ihNext =>
      rcases ended : first world with ⟨failure | value, between⟩
      · rw [bind_of_error ended] at failed ⊢
        obtain rfl := Except.error.inj failed
        rw [← congrArg Prod.snd ended]
        exact ihFirst (congrArg Prod.fst ended)
      · rw [bind_of_ok ended] at failed ⊢
        obtain ⟨events, leads⟩ := alike.leads world
        rw [ended] at leads
        obtain ⟨before, target, position, onward, missing⟩ := ihNext value failed
        refine ⟨events ++ before, target, position, ?_, ?_⟩
        · rw [List.append_assoc]
          exact leads.trans onward
        · rwa [Memory.replay_append, ← leads.service]
  | ask call allowed =>
      cases call with
      | boards | columns | cards | cardsIn | labels => cases failed
      | create draft =>
          have creating := Memory.create_creating draft world.service
          change (Memory.create draft world.service).result = _ at failed
          generalize Memory.create draft world.service = reply at creating failed
          cases creating <;> cases failed
      | move moved target position =>
          have moving := Memory.move_moving moved target position world.service
          have leads := World.LeadsTo.ask world (.move moved target position)
          change (Memory.move moved target position world.service).result = _ at failed
          generalize Memory.move moved target position world.service = reply at moving failed
          cases moving with
          | down | misplaced | replaced => cases failed
          | unknown _ missing =>
              cases failed
              exact ⟨[], target, position, leads, missing⟩

end Run

end Kanban
