import Kanban.Proofs.Run.Alike

namespace Kanban

/-- Worlds that differ in nothing but what was logged. -/
structure World.Agrees (world other : World σ) : Prop where
  service : world.service = other.service
  draws : world.draws = other.draws
  calls : world.trace.filter (!·.isLog) = other.trace.filter (!·.isLog)

namespace World.Agrees

variable {world other third : World σ}

theorem refl (world : World σ) : world.Agrees world :=
  ⟨rfl, rfl, rfl⟩

theorem symm (agrees : world.Agrees other) : other.Agrees world :=
  ⟨agrees.service.symm, agrees.draws.symm, agrees.calls.symm⟩

theorem trans (agrees : world.Agrees other) (onward : other.Agrees third) : world.Agrees third :=
  ⟨agrees.service.trans onward.service, agrees.draws.trans onward.draws,
    agrees.calls.trans onward.calls⟩

end World.Agrees

namespace Run

def SameWork (run other : Run σ α) : Prop :=
  ∀ world twin, world.Agrees twin →
    (run world).1 = (other twin).1 ∧ (run world).2.Agrees (other twin).2

namespace SameWork

variable {run other third : Run σ α}

theorem symm (same : run.SameWork other) : other.SameWork run := by
  intro world twin agrees
  obtain ⟨result, later⟩ := same twin world agrees.symm
  exact ⟨result.symm, later.symm⟩

theorem trans (same : run.SameWork other) (onward : other.SameWork third) :
    run.SameWork third := by
  intro world twin agrees
  obtain ⟨result, later⟩ := same world world (.refl world)
  obtain ⟨result', later'⟩ := onward world twin agrees
  exact ⟨result.trans result', later.trans later'⟩

theorem bind {next follow : α → Run σ β} (same : run.SameWork other)
    (onward : ∀ value, (next value).SameWork (follow value)) :
    (run >>= next).SameWork (other >>= follow) := by
  intro world twin agrees
  have parts := same world twin agrees
  rw [bind_apply, bind_apply]
  generalize run world = ended at parts
  generalize other twin = ended' at parts
  obtain ⟨result, between⟩ := ended
  obtain ⟨result', between'⟩ := ended'
  obtain ⟨rfl, later⟩ := parts
  cases result with
  | error failure => exact ⟨rfl, later⟩
  | ok value => exact onward value between between' later

theorem emit_first {events : List Event} (logs : ∀ event ∈ events, event.isLog)
    {next : Unit → Run σ α} (same : (next ()).SameWork other) :
    (Run.emit events >>= next).SameWork other := by
  intro world twin agrees
  refine same { world with trace := world.trace ++ events } twin ⟨agrees.service, agrees.draws, ?_⟩
  have silent : events.filter (!·.isLog) = [] := by
    rw [List.filter_eq_nil_iff]
    intro event member
    simp [logs event member]
  rw [List.filter_append, silent, List.append_nil]
  exact agrees.calls

theorem of_alike {licence : Licence} {service : Service σ} {run other : Run σ α}
    (alike : Run.Alike licence service service run other) : run.SameWork other := by
  induction alike with
  | pure value => exact fun world twin agrees => ⟨rfl, agrees⟩
  | bind _ _ first onward => exact first.bind onward
  | fail _ => exact fun world twin agrees => ⟨rfl, agrees⟩
  | emit logs =>
      intro world twin agrees
      refine ⟨rfl, agrees.service, agrees.draws, ?_⟩
      simp [List.filter_append, agrees.calls]
  | draw _ _ =>
      intro world twin agrees
      simp only [draw_apply, agrees.draws]
      exact ⟨trivial, agrees.service, rfl, agrees.calls⟩
  | ask call _ =>
      intro world twin agrees
      simp only [ask_apply, agrees.service]
      refine ⟨trivial, rfl, agrees.draws, ?_⟩
      simp [List.filter_append, agrees.calls]

end SameWork

end Run

end Kanban
