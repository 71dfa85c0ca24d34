import Kanban.Proofs.Service.Memory.Replay

namespace Kanban

namespace Service

/-- Reads of a service one after the other, with lines of the log between them: the state they lead
to, and what is told on the way. -/
inductive ReadsTo (service : Service σ) : σ → List Event → σ → Prop where
  | done (state : σ) : ReadsTo service state [] state
  | log {state later : σ} {event : Event} {events : List Event} :
      event.isLog → ReadsTo service state events later →
      ReadsTo service state (event :: events) later
  | read {state later : σ} {events : List Event} {α : Type} (call : Call α) :
      call.recorded.isWrite = false →
      ReadsTo service (service.answer call state).state events later →
      ReadsTo service state ((service.answer call state).events ++ events) later

def StaysWhenRead (service : Service σ) : Prop :=
  ∀ {α : Type} (call : Call α) (state : σ), call.recorded.isWrite = false →
    (service.answer call state).state = state

namespace ReadsTo

variable {service : Service σ} {state between later : σ} {events more : List Event}

theorem logs (isLog : ∀ event ∈ events, event.isLog) : service.ReadsTo state events state := by
  induction events with
  | nil => exact .done state
  | cons event rest ih =>
      exact .log (isLog event List.mem_cons_self) (ih fun other member =>
        isLog other (List.mem_cons_of_mem _ member))

theorem trans (first : service.ReadsTo state events between)
    (second : service.ReadsTo between more later) :
    service.ReadsTo state (events ++ more) later := by
  induction first with
  | done => exact second
  | log isLog _ ih => exact .log isLog (ih second)
  | read call reads _ ih =>
      rw [List.append_assoc]
      exact .read call reads (ih second)

theorem stays (leads : service.ReadsTo state events later) (stay : service.StaysWhenRead) :
    later = state := by
  induction leads with
  | done => rfl
  | log _ _ ih => exact ih
  | read call reads _ ih => exact ih.trans (stay call _ reads)

end ReadsTo

end Service

namespace Memory

theorem service_staysWhenRead : service.StaysWhenRead := by
  intro α call memory reads
  rw [(answer_state call memory).1, after_of_read reads]

theorem writes_of_readsTo {memory later : Memory} {events : List Event}
    (leads : service.ReadsTo memory events later) : ∀ event ∈ events, event.isWrite = false := by
  induction leads with
  | done => simp
  | log isLog _ ih => simpa [Event.isWrite_of_isLog isLog] using ih
  | @read state _ _ _ call reads _ ih =>
      rw [(answer_state call state).2]
      simpa [Event.isWrite, reads] using ih

end Memory

namespace Run.Alike

variable {licence : Licence} {service : Service σ} {right : Service τ} {run : Run σ α}
  {other : Run τ α}

theorem reads (alike : Alike licence service right run other) (mayNot : ¬ licence.writes)
    (world : World σ) :
    ∃ events, (run world).2.trace = world.trace ++ events ∧
      service.ReadsTo world.service events (run world).2.service := by
  induction alike generalizing world with
  | pure | fail | draw => exact ⟨[], (List.append_nil _).symm, .done _⟩
  | emit isLog => exact ⟨_, rfl, .logs isLog⟩
  | ask call allowed =>
      have reads : call.recorded.isWrite = false := by
        rw [← Bool.not_eq_true]
        exact fun write => mayNot (allowed write)
      refine ⟨(service.answer call world.service).events, rfl, ?_⟩
      rw [← List.append_nil (service.answer call world.service).events]
      exact .read call reads (.done _)
  | @bind α β first other next follow alike alikeNext ihFirst ihNext =>
      obtain ⟨events, told, leads⟩ := ihFirst world
      rcases ended : first world with ⟨failure | value, between⟩
      · rw [Run.bind_of_error ended]
        rw [ended] at told leads
        exact ⟨events, told, leads⟩
      · rw [ended] at told leads
        obtain ⟨more, toldOn, onward⟩ := ihNext value between
        rw [Run.bind_of_ok ended]
        refine ⟨events ++ more, ?_, leads.trans onward⟩
        rw [toldOn, told, List.append_assoc]

theorem undrawn (alike : Alike licence service right run other) (mayNot : ¬ licence.draws)
    (world : World σ) (draws : Draws) :
    run { world with draws } = ((run world).1, { (run world).2 with draws }) := by
  induction alike generalizing world with
  | pure | fail | emit | ask => rfl
  | draw _ allowed => exact absurd allowed mayNot
  | @bind α β first other next follow alike alikeNext ihFirst ihNext =>
      have begun := ihFirst world
      rcases ended : first world with ⟨failure | value, between⟩
      · rw [ended] at begun
        rw [Run.bind_of_error begun, Run.bind_of_error ended]
      · rw [ended] at begun
        rw [Run.bind_of_ok begun, Run.bind_of_ok ended]
        exact ihNext value between

theorem draws_kept (alike : Alike licence service right run other) (mayNot : ¬ licence.draws)
    (world : World σ) : (run world).2.draws = world.draws :=
  congrArg (·.2.draws) (alike.undrawn mayNot world world.draws)

end Run.Alike

end Kanban
