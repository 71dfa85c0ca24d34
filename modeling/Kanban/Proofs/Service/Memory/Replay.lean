import Kanban.Proofs.Run.Alike
import Kanban.Proofs.Service.Memory.Write

/-!
The trace of a run tells all that happened to the board in memory: making the recorded calls again,
one after the other, leads to the same board.  The board after a part of the trace is the one that
the run had at that moment.
-/
namespace Kanban

def Event.isWrite : Event → Bool
  | .call made => made.isWrite
  | _ => false

def Event.writes (events : List Event) : Nat :=
  events.countP isWrite

@[simp] theorem Event.writes_nil : writes [] = 0 := rfl

@[simp] theorem Event.writes_cons (event : Event) (rest : List Event) :
    writes (event :: rest) = event.isWrite.toNat + writes rest := by
  simp only [writes, List.countP_cons]
  cases event.isWrite <;> simp [Nat.add_comm]

@[simp] theorem Event.writes_append (events more : List Event) :
    writes (events ++ more) = writes events + writes more :=
  List.countP_append

theorem Event.isWrite_of_isLog {event : Event} (log : event.isLog) : event.isWrite = false := by
  cases event with
  | log level message => rfl
  | call | request => cases log

theorem Event.writes_of_reads {events : List Event}
    (reads : ∀ event ∈ events, event.isWrite = false) : writes events = 0 := by
  rw [writes, List.countP_eq_zero]
  intro event member
  simp [reads event member]

namespace Memory

def after (memory : Memory) : BoardCall → Memory
  | .create draft => (create draft memory).state
  | .move id column position => (move id column position memory).state
  | _ => memory

def replay (memory : Memory) (events : List Event) : Memory :=
  events.foldl (fun reached event =>
    match event with
    | .call call => reached.after call
    | _ => reached) memory

@[simp] theorem replay_nil (memory : Memory) : memory.replay [] = memory := rfl

@[simp] theorem replay_append (memory : Memory) (events more : List Event) :
    memory.replay (events ++ more) = (memory.replay events).replay more := by
  simp [replay]

@[simp] theorem replay_call (memory : Memory) (call : BoardCall) (rest : List Event) :
    memory.replay (.call call :: rest) = (memory.after call).replay rest := rfl

theorem after_of_read {memory : Memory} {call : BoardCall} (read : call.isWrite = false) :
    memory.after call = memory := by
  cases call with
  | boards | columns | cards | cardsIn | labels => rfl
  | create | move => cases read

theorem replay_of_reads {memory : Memory} {events : List Event}
    (reads : ∀ event ∈ events, event.isWrite = false) : memory.replay events = memory := by
  induction events with
  | nil => rfl
  | cons event rest ih =>
      have restReads : ∀ other ∈ rest, other.isWrite = false := fun other member =>
        reads other (by simp [member])
      cases event with
      | log | request => exact ih restReads
      | call call =>
          rw [replay_call, after_of_read (reads (.call call) List.mem_cons_self)]
          exact ih restReads

@[simp] theorem after_create (draft : Draft) (memory : Memory) :
    memory.after (.create draft) = (create draft memory).state := rfl

@[simp] theorem after_move (id column position : Tree) (memory : Memory) :
    memory.after (.move id column position) = (move id column position memory).state := rfl

theorem answer_state (call : Service.Call α) (memory : Memory) :
    (service.answer call memory).state = memory.after call.recorded ∧
      (service.answer call memory).events = [.call call.recorded] := by
  cases call with
  | boards | columns | cards | cardsIn | labels => exact ⟨rfl, rfl⟩
  | create draft =>
      refine ⟨rfl, ?_⟩
      have creating := create_creating draft memory
      change (create draft memory).events = _
      generalize create draft memory = reply at creating ⊢
      cases creating <;> rfl
  | move id column position =>
      refine ⟨rfl, ?_⟩
      have moving := move_moving id column position memory
      change (move id column position memory).events = _
      generalize move id column position memory = reply at moving ⊢
      cases moving <;> rfl

theorem replay_keeps {invariant : Memory → Prop}
    (kept : ∀ memory call, invariant memory → invariant (memory.after call)) {memory : Memory}
    (holds : invariant memory) (events : List Event) : invariant (memory.replay events) := by
  induction events generalizing memory with
  | nil => exact holds
  | cons event rest ih =>
      cases event with
      | log | request => exact ih holds
      | call call => exact ih (kept memory call holds)

inductive Becoming (memory : Memory) : BoardCall → Memory → Prop where
  | read {call : BoardCall} : call.isWrite = false → Becoming memory call memory
  | refused {call : BoardCall} : call.isWrite = true → Becoming memory call memory.counted
  | appended {draft : Draft} (position : Float) :
      Becoming memory (.create draft) (memory.counted.appending (memory.drafted draft position))
  | replaced {id column position : Tree} {card : Card} (landed : Float) :
      memory.cardNamed? id = some card →
      Becoming memory (.move id column position)
        (memory.counted.replacing id { card with columnId := column, position := landed })

theorem after_becoming (memory : Memory) (call : BoardCall) :
    memory.Becoming call (memory.after call) := by
  cases call with
  | boards | columns | cards | cardsIn | labels => exact .read rfl
  | create draft =>
      have creating := create_creating draft memory
      rw [after_create]
      generalize create draft memory = reply at creating ⊢
      cases creating with
      | down | misplaced => exact .refused rfl
      | appended => exact .appended _
  | move id column position =>
      have moving := move_moving id column position memory
      rw [after_move]
      generalize move id column position memory = reply at moving ⊢
      cases moving with
      | down | unknown | misplaced => exact .refused rfl
      | replaced _ found => exact .replaced _ found

theorem after_frame (memory : Memory) (call : BoardCall) :
    ∃ cards created, memory.after call =
      { memory with
        cards := cards, created := created, writes := memory.writes + call.isWrite.toNat } := by
  have becoming := memory.after_becoming call
  generalize memory.after call = next at becoming ⊢
  cases becoming with
  | read write | refused write =>
      rw [write]
      exact ⟨_, _, rfl⟩
  | appended | replaced => exact ⟨_, _, rfl⟩

theorem replay_frame (memory : Memory) (events : List Event) :
    ∃ cards created, memory.replay events =
      { memory with
        cards := cards, created := created, writes := memory.writes + Event.writes events } := by
  induction events generalizing memory with
  | nil => exact ⟨_, _, rfl⟩
  | cons event rest ih =>
      cases event with
      | log | request =>
          rw [Event.writes_cons]
          simpa [replay, Event.isWrite] using ih memory
      | call call =>
          obtain ⟨_, _, called⟩ := memory.after_frame call
          obtain ⟨cards, created, replayed⟩ := ih (memory.after call)
          refine ⟨cards, created, ?_⟩
          rw [replay_call, replayed, called, Event.writes_cons, Event.isWrite, Nat.add_assoc]

end Memory

/-- Events lead from a world to a later one if they are what the trace has gained and the board is
the one that they lead to.  The draws have been taken in their order. -/
structure World.LeadsTo (world : World Memory) (events : List Event) (later : World Memory) :
    Prop where
  trace : later.trace = world.trace ++ events
  service : later.service = world.service.replay events
  draws : world.draws.MovesOn later.draws

theorem World.LeadsTo.refl (world : World Memory) : world.LeadsTo [] world :=
  ⟨by simp, rfl, .refl _⟩

theorem World.LeadsTo.info (world : World Memory) (message : String) :
    world.LeadsTo [.info message] (Run.info message world).2 :=
  ⟨rfl, rfl, .refl _⟩

theorem World.LeadsTo.ask (world : World Memory) (call : Service.Call α) :
    world.LeadsTo [.call call.recorded] (Run.ask (Memory.service.answer call) world).2 := by
  obtain ⟨state, events⟩ := Memory.answer_state call world.service
  exact ⟨by simp [events], by simp [state], .refl _⟩

theorem World.LeadsTo.trans {world between later : World Memory} {events more : List Event}
    (first : world.LeadsTo events between) (second : between.LeadsTo more later) :
    world.LeadsTo (events ++ more) later where
  trace := by rw [second.trace, first.trace, List.append_assoc]
  service := by rw [second.service, first.service, Memory.replay_append]
  draws := first.draws.trans second.draws

theorem World.LeadsTo.writes {world later : World Memory} {events : List Event}
    (leads : world.LeadsTo events later) :
    later.service.writes = world.service.writes + Event.writes events := by
  obtain ⟨_, _, replayed⟩ := world.service.replay_frame events
  rw [leads.service, replayed]

theorem World.LeadsTo.failAt {world later : World Memory} {events : List Event}
    (leads : world.LeadsTo events later) : later.service.failAt = world.service.failAt := by
  obtain ⟨_, _, replayed⟩ := world.service.replay_frame events
  rw [leads.service, replayed]

namespace Run.Alike

variable {licence : Licence} {right : Service τ}

/-- A run on the board in memory adds events to the trace that lead to where it ends, and it writes
only if it may. -/
theorem replays {run : Run Memory α} {other : Run τ α}
    (alike : Alike licence Memory.service right run other) (world : World Memory) :
    ∃ events, world.LeadsTo events (run world).2 ∧
      ∀ event ∈ events, event.isWrite → licence.writes := by
  induction alike generalizing world with
  | pure | fail => exact ⟨[], .refl world, by simp⟩
  | draw moves => exact ⟨[], ⟨by simp, rfl, moves _⟩, by simp⟩
  | emit logs =>
      have reads := fun event member => Event.isWrite_of_isLog (logs event member)
      refine ⟨_, ⟨rfl, (Memory.replay_of_reads reads).symm, .refl _⟩, fun event member write => ?_⟩
      simp [reads event member] at write
  | @bind α β first other next follow alike alikeNext ihFirst ihNext =>
      obtain ⟨events, leads, licensed⟩ := ihFirst world
      rcases ended : first world with ⟨failure | value, between⟩
      · rw [Run.bind_of_error ended]
        rw [ended] at leads
        exact ⟨events, leads, licensed⟩
      · obtain ⟨more, onward, licensedOn⟩ := ihNext value between
        rw [Run.bind_of_ok ended]
        rw [ended] at leads
        refine ⟨events ++ more, leads.trans onward, fun event member => ?_⟩
        rcases List.mem_append.mp member with member | member
        · exact licensed event member
        · exact licensedOn event member
  | ask call allowed =>
      refine ⟨[.call call.recorded], .ask world call, ?_⟩
      simpa [Event.isWrite] using allowed

theorem leads {run : Run Memory α} {other : Run τ α}
    (alike : Alike licence Memory.service right run other) (world : World Memory) :
    ∃ events, world.LeadsTo events (run world).2 := by
  obtain ⟨events, leads, _⟩ := alike.replays world
  exact ⟨events, leads⟩

theorem board_kept {run : Run Memory α} {other : Run τ α}
    (alike : Alike licence Memory.service right run other) (reads : ¬ licence.writes)
    (world : World Memory) : (run world).2.service = world.service := by
  obtain ⟨events, leads, licensed⟩ := alike.replays world
  rw [leads.service]
  refine Memory.replay_of_reads fun event member => ?_
  rw [← Bool.not_eq_true]
  exact fun write => reads (licensed event member write)

end Run.Alike

end Kanban
