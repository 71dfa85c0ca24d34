import Kanban.Proofs.Service.Memory.Replay

namespace Kanban

namespace Memory

def failing (memory : Memory) (number : Option Int) : Memory :=
  { memory with failAt := number }

@[simp] theorem isDown_failing_none (memory : Memory) : (memory.failing none).isDown = false := rfl

@[simp] theorem isDown_failing_some (memory : Memory) (number : Nat) :
    (memory.failing (some number)).isDown = decide (number = memory.writes + 1) := by
  rw [Bool.eq_iff_iff]
  simp only [isDown, failing, beq_iff_eq, Option.some.injEq, Int.natCast_inj, decide_eq_true_eq]

variable {memory : Memory} {number : Option Int}

theorem create_failing (draft : Draft) (up : memory.isDown = false)
    (stays : (memory.failing number).isDown = false) :
    create draft (memory.failing number) =
      ⟨(create draft memory).result, (create draft memory).state.failing number,
        (create draft memory).events⟩ := by
  have armed := create_creating draft (memory.failing number)
  have free := create_creating draft memory
  generalize create draft (memory.failing number) = reply at armed ⊢
  generalize create draft memory = expected at free ⊢
  cases free with
  | down down => simp [up] at down
  | misplaced _ place =>
      cases armed with
      | down down => simp [stays] at down
      | misplaced _ same =>
          cases place.symm.trans same
          rfl
      | appended _ same => cases place.symm.trans same
  | appended _ place =>
      cases armed with
      | down down => simp [stays] at down
      | misplaced _ same => cases place.symm.trans same
      | appended _ same =>
          cases place.symm.trans same
          rfl

theorem move_failing (id column position : Tree) (up : memory.isDown = false)
    (stays : (memory.failing number).isDown = false) :
    move id column position (memory.failing number) =
      ⟨(move id column position memory).result,
        (move id column position memory).state.failing number,
        (move id column position memory).events⟩ := by
  have armed := move_moving id column position (memory.failing number)
  have free := move_moving id column position memory
  generalize move id column position (memory.failing number) = reply at armed ⊢
  generalize move id column position memory = expected at free ⊢
  cases free with
  | down down => simp [up] at down
  | unknown _ missing =>
      cases armed with
      | down down => simp [stays] at down
      | unknown => rfl
      | misplaced _ found | replaced _ found => cases missing.symm.trans found
  | misplaced _ found place =>
      cases armed with
      | down down => simp [stays] at down
      | unknown _ missing => cases found.symm.trans missing
      | misplaced _ _ same =>
          cases place.symm.trans same
          rfl
      | replaced _ _ same => cases place.symm.trans same
  | replaced _ found place =>
      cases armed with
      | down down => simp [stays] at down
      | unknown _ missing => cases found.symm.trans missing
      | misplaced _ _ same => cases place.symm.trans same
      | replaced _ other same =>
          cases found.symm.trans other
          cases place.symm.trans same
          rfl

theorem answer_failing (call : Service.Call α)
    (up : call.recorded.isWrite → memory.isDown = false)
    (stays : call.recorded.isWrite → (memory.failing number).isDown = false) :
    service.answer call (memory.failing number) =
      ⟨(service.answer call memory).result, (service.answer call memory).state.failing number,
        (service.answer call memory).events⟩ := by
  cases call with
  | boards | columns | cards | cardsIn | labels => rfl
  | create draft => exact create_failing draft (up rfl) (stays rfl)
  | move id column position => exact move_failing id column position (up rfl) (stays rfl)

theorem answer_down {call : Service.Call α} (write : call.recorded.isWrite)
    (down : memory.isDown = true) :
    service.answer call memory =
      ⟨.error (.ofRun .boardDown), memory.counted, [.call call.recorded]⟩ := by
  cases call with
  | boards | columns | cards | cardsIn | labels => cases write
  | create draft =>
      change create draft memory = _
      have creating := create_creating draft memory
      generalize create draft memory = reply at creating ⊢
      cases creating with
      | down => rfl
      | misplaced up | appended up => simp [up] at down
  | move id column position =>
      change move id column position memory = _
      have moving := move_moving id column position memory
      generalize move id column position memory = reply at moving ⊢
      cases moving with
      | down => rfl
      | unknown up | misplaced up | replaced up => simp [up] at down

end Memory

def World.failing (world : World Memory) (number : Option Int) : World Memory :=
  { world with service := world.service.failing number }

namespace Run

/-- An end at the write of a number.  Of the events without a failing write, those up to this write
have happened, and the board is the one before it, but for the count. -/
def StopsAt (number : Nat) (world : World Memory) (events : List Event)
    (ended : Except Failure α × World Memory) : Prop :=
  ∃ before call after, events = before ++ .call call :: after ∧ call.isWrite ∧
    world.service.writes + Event.writes before + 1 = number ∧
    ended.1 = .error (.ofRun .boardDown) ∧ ended.2.trace = world.trace ++ before ++ [.call call] ∧
    ended.2.service = (world.service.replay before).counted.failing (some number)

/-- A run stops at the write of a number if it comes to it, and goes on as if no write failed if it
does not. -/
def FailsFast (number : Nat) (run : Run Memory α) (world : World Memory) : Prop :=
  ∃ events, world.LeadsTo events (run world).2 ∧
    if world.service.writes < number ∧ number ≤ world.service.writes + Event.writes events then
      StopsAt number world events (run (world.failing (some number)))
    else
      run (world.failing (some number)) = ((run world).1, (run world).2.failing (some number))

variable {number : Nat} {world between : World Memory} {events more : List Event}

theorem StopsAt.append {ended : Except Failure α × World Memory}
    (stops : StopsAt number world events ended) : StopsAt number world (events ++ more) ended := by
  obtain ⟨before, call, after, rfl, rest⟩ := stops
  exact ⟨before, call, after ++ more, by simp, rest⟩

theorem StopsAt.onward {ended : Except Failure α × World Memory}
    (leads : world.LeadsTo events between) (stops : StopsAt number between more ended) :
    StopsAt number world (events ++ more) ended := by
  obtain ⟨before, call, after, rfl, write, count, down, trace, service⟩ := stops
  refine ⟨events ++ before, call, after, by simp, write, ?_, down, ?_, ?_⟩
  · rw [← count, leads.writes, Event.writes_append, Nat.add_assoc _ (Event.writes events)]
  · simp only [trace, leads.trace, List.append_assoc]
  · rw [service, leads.service, Memory.replay_append]

theorem StopsAt.bind {first : Run Memory α} {next : α → Run Memory β}
    (stops : StopsAt number world events (first between)) :
    StopsAt number world events ((first >>= next) between) := by
  obtain ⟨before, call, after, split, write, count, down, trace, service⟩ := stops
  have failed : first between = (.error (.ofRun .boardDown), (first between).2) :=
    Prod.ext down rfl
  rw [bind_of_error failed]
  exact ⟨before, call, after, split, write, count, rfl, trace, service⟩

theorem FailsFast.bind {first : Run Memory α} {next : α → Run Memory β}
    (free : world.service.failAt = none) (here : FailsFast number first world)
    (onward : ∀ value between, between.service.failAt = none →
      FailsFast number (next value) between) :
    FailsFast number (first >>= next) world := by
  obtain ⟨events, leads, course⟩ := here
  rcases ended : first world with ⟨failure | value, between⟩
  · refine ⟨events, by rwa [bind_of_error ended, ← congrArg Prod.snd ended], ?_⟩
    split at course
    next reached => exact if_pos reached ▸ course.bind
    next other =>
      rw [ended] at course
      rw [if_neg other, bind_of_error ended, bind_of_error course]
  · rw [ended] at leads
    obtain ⟨more, leadsOn, courseOn⟩ := onward value between (leads.failAt.trans free)
    rw [leads.writes] at courseOn
    refine ⟨events ++ more, by rw [bind_of_ok ended]; exact leads.trans leadsOn, ?_⟩
    rw [Event.writes_append, ← Nat.add_assoc]
    -- The write that fails is in the first part, in the second one or in neither.
    split at course
    next reached =>
      rw [if_pos ⟨reached.1, by omega⟩]
      exact course.append.bind
    next other =>
      rw [ended] at course
      rw [bind_of_ok ended, bind_of_ok course]
      split at courseOn
      next reached =>
        rw [if_pos ⟨by omega, reached.2⟩]
        exact courseOn.onward leads
      next otherOn =>
        rw [if_neg (by omega)]
        exact courseOn

theorem FailsFast.ask (free : world.service.failAt = none) (call : Service.Call α) :
    FailsFast number (Run.ask (Memory.service.answer call)) world := by
  refine ⟨[.call call.recorded], .ask world call, ?_⟩
  have count : Event.writes [.call call.recorded] = call.recorded.isWrite.toNat := by
    simp [Event.isWrite]
  rw [count]
  split
  next reached =>
    have write : call.recorded.isWrite := by
      rw [← Bool.toNat_eq_one]
      have atMost := call.recorded.isWrite.toNat_le
      omega
    have next : number = world.service.writes + 1 := by
      simp only [write, Bool.toNat_true] at reached
      omega
    have down : (world.service.failing (some number)).isDown = true := by
      simpa using next
    refine ⟨[], call.recorded, [], rfl, write, by simp [next], ?_⟩
    simp only [ask_apply, World.failing, Memory.answer_down write down, List.append_nil]
    exact ⟨trivial, trivial, rfl⟩
  next other =>
    have up : world.service.isDown = false := by simp [Memory.isDown, free]
    have stays (write : call.recorded.isWrite) :
        (world.service.failing (some number)).isDown = false := by
      simp only [write, Bool.toNat_true] at other
      simp only [Memory.isDown_failing_some, decide_eq_false_iff_not]
      omega
    simp only [ask_apply, World.failing, Memory.answer_failing call (fun _ => up) stays]

end Run

theorem Run.Alike.fails_fast {licence : Licence} {right : Service τ} {run : Run Memory α}
    {other : Run τ α} (alike : Alike licence Memory.service right run other) (number : Nat)
    {world : World Memory} (free : world.service.failAt = none) : FailsFast number run world := by
  induction alike generalizing world with
  | pure | fail =>
      refine ⟨[], .refl _, ?_⟩
      rw [if_neg (by simp)]
      rfl
  | draw moves =>
      refine ⟨[], ⟨by simp, rfl, moves _⟩, ?_⟩
      rw [if_neg (by simp)]
      rfl
  | emit logs =>
      have reads := fun event member => Event.isWrite_of_isLog (logs event member)
      refine ⟨_, ⟨rfl, (Memory.replay_of_reads reads).symm, .refl _⟩, ?_⟩
      rw [if_neg (by rw [Event.writes_of_reads reads]; omega)]
      rfl
  | bind alike alikeNext ihFirst ihNext =>
      exact (ihFirst free).bind free fun value between free => ihNext value free
  | ask call allowed => exact .ask free call

end Kanban
