import Kanban.Bot
import Kanban.Proofs.Launch.SameWork
import Kanban.Proofs.Run.Outcome

namespace Kanban

namespace Bot

structure Update where
  handler : Handler
  message : Message
  host : Host

/-- Whether a message comes from one of these users, who are known by their identifiers as texts. -/
def Message.isFrom (message : Message) (users : List String) : Bool :=
  match message.user with
  | some user => decide (user.id.shown ∈ users)
  | none => false

theorem isAllowed_eq (launch : Launch σ) (message : Message) :
    isAllowed launch message = message.isFrom launch.settings.chat.users := by
  unfold isAllowed Message.isFrom Settings.isAllowed
  cases message.user with
  | none => rfl
  | some user => exact List.contains_eq_mem ..

variable (launch : Launch σ)

def respond (update : Update) : Run σ (List String) :=
  handle { launch with host := update.host } update.handler update.message

/-- Handles updates in turn.  One that ends in a failure does not keep the next from being
handled. -/
def serve : List Update → Run σ (List (Update × Except Failure (List String)))
  | [] => return []
  | update :: rest => do
      let replies ← Run.outcome (respond launch update)
      let others ← serve rest
      return (update, replies) :: others

theorem executeWords_sameWork (task : Tree) (words : List String) :
    (executeWords launch task words).SameWork (executeWords launch task words) := by
  unfold executeWords
  split
  next arguments _ =>
    refine (launch.run_sameWork task arguments).attempt.bind fun ended => ?_
    cases ended with
    | ok pipeline => exact .pure _
    | error cause => exact (Run.SameWork.emit (by simp [Event.isLog])).bind fun _ => .pure _
  next => exact .pure _

theorem help_ends : ∃ replies, Run.outcome (help launch) = pure replies := by
  unfold help
  dsimp only
  split
  · exact ⟨_, Run.outcome_fail_bind _ _⟩
  · exact ⟨_, Run.outcome_pure _⟩

theorem answer_sameWork (handler : Handler) (text : String) :
    (answer launch handler text).SameWork (answer launch handler text) := by
  cases handler with
  | help =>
      unfold answer help
      dsimp only
      split
      · exact .bind (.fail _) fun _ => .pure _
      · exact .pure _
  | tasks =>
      refine (launch.load_sameWork []).attempt.bind fun loaded => ?_
      cases loaded with
      | ok program => exact .pure _
      | error cause => exact .pure _
  | task =>
      unfold answer task
      dsimp only
      split
      · exact .pure _
      · exact executeWords_sameWork launch _ _
  | text =>
      unfold answer plainText
      dsimp only
      split
      · exact executeWords_sameWork launch _ _
      · exact .pure _

theorem reject_sameWork (message : Message) :
    (reject message : Run σ _).SameWork (pure [rejection]) :=
  .emit_first (by simp [Event.isLog]) (.pure _)

theorem respond_sameWork (update : Update) :
    (respond launch update).SameWork (respond launch update) := by
  unfold respond handle
  split
  · exact answer_sameWork _ _ _
  · exact (reject_sameWork _).trans (reject_sameWork _).symm

theorem respond_to_stranger {update : Update}
    (stranger : update.message.isFrom launch.settings.chat.users = false) :
    ∃ replies, (Run.outcome (respond launch update)).SameWork (pure replies) ∧
      (update.handler ≠ .help → replies = .ok [rejection]) := by
  have unknown : isAllowed { launch with host := update.host } update.message = false :=
    (isAllowed_eq _ _).trans stranger
  unfold respond handle
  by_cases asksHelp : update.handler = .help
  · obtain ⟨replies, ends⟩ := help_ends { launch with host := update.host }
    refine ⟨replies, ?_, fun other => absurd asksHelp other⟩
    rw [if_pos (Or.inl asksHelp), asksHelp]
    unfold answer
    rw [ends]
    exact .pure replies
  · refine ⟨.ok [rejection], ?_, fun _ => rfl⟩
    rw [if_neg (by simp [asksHelp, unknown])]
    rw [← Run.outcome_pure]
    exact (reject_sameWork update.message).outcome

theorem serve_nil (world : World σ) : serve launch [] world = (.ok [], world) := by
  rw [serve, Run.pure_apply]

theorem serve_cons {update : Update} {rest : List Update} {world : World σ}
    {others : List (Update × Except Failure (List String))}
    (served : (serve launch rest (respond launch update world).2).1 = .ok others) :
    serve launch (update :: rest) world =
      (.ok ((update, (respond launch update world).1) :: others),
        (serve launch rest (respond launch update world).2).2) := by
  have onward : serve launch rest (respond launch update world).2 =
      (.ok others, (serve launch rest (respond launch update world).2).2) := Prod.ext served rfl
  have answered : Run.outcome (respond launch update) world =
      (.ok (respond launch update world).1, (respond launch update world).2) := rfl
  rw [serve, Run.bind_of_ok answered, Run.bind_of_ok onward]
  rfl

/-- Without the updates of strangers, the same is replied to all others, and the board, the draws
and the calls that were made to the board are the same.  What a stranger asks of the tasks makes no
difference to the reply. -/
theorem strangers_have_no_influence (updates : List Update) (world : World σ) :
    let known (update : Update) := update.message.isFrom launch.settings.chat.users
    let whole := serve launch updates world
    let others := serve launch (updates.filter known) world
    ∃ replies, whole.1 = .ok replies ∧ replies.map (·.1) = updates ∧
      others.1 = .ok (replies.filter fun reply => known reply.1) ∧ whole.2.Agrees others.2 ∧
      ∀ reply ∈ replies, known reply.1 = false → reply.1.handler ≠ .help →
        reply.2 = .ok [rejection] := by
  intro known
  -- Lines about strangers tell the two logs apart, so the worlds only agree.
  suffices holds : ∀ twin, world.Agrees twin → ∃ replies,
      (serve launch updates world).1 = .ok replies ∧ replies.map (·.1) = updates ∧
      (serve launch (updates.filter known) twin).1 =
        .ok (replies.filter fun reply => known reply.1) ∧
      (serve launch updates world).2.Agrees (serve launch (updates.filter known) twin).2 ∧
      ∀ reply ∈ replies, known reply.1 = false → reply.1.handler ≠ .help →
        reply.2 = .ok [rejection] from holds world (.refl world)
  induction updates generalizing world with
  | nil =>
      intro twin agrees
      rw [List.filter_nil, serve_nil, serve_nil]
      exact ⟨[], rfl, rfl, rfl, agrees, fun _ member => absurd member List.not_mem_nil⟩
  | cons update rest ih =>
      intro twin agrees
      cases trusted : known update with
      | true =>
          obtain ⟨result, later⟩ := respond_sameWork launch update world twin agrees
          obtain ⟨replies, served, asked, servedOthers, same, rejected⟩ := ih _ _ later
          rw [List.filter_cons_of_pos trusted, serve_cons launch served,
            serve_cons launch servedOthers]
          refine ⟨_, rfl, by simp [asked], ?_, same, fun reply member stranger => ?_⟩
          · rw [List.filter_cons_of_pos (by exact trusted), result]
          · rcases List.mem_cons.mp member with rfl | member
            · rw [trusted] at stranger
              cases stranger
            · exact rejected reply member stranger
      | false =>
          obtain ⟨answer, ends, rejects⟩ := respond_to_stranger launch trusted
          obtain ⟨result, later⟩ := ends world twin agrees
          have replied : (respond launch update world).1 = answer := Except.ok.inj result
          obtain ⟨replies, served, asked, servedOthers, same, rejected⟩ := ih _ _ later
          have untrusted : ¬ known update = true := by simp [trusted]
          rw [List.filter_cons_of_neg untrusted, serve_cons launch served]
          refine ⟨_, rfl, by simp [asked], ?_, same, fun reply member stranger asks => ?_⟩
          · rw [List.filter_cons_of_neg (by exact untrusted)]
            exact servedOthers
          · rcases List.mem_cons.mp member with rfl | member
            · exact replied.trans (rejects asks)
            · exact rejected reply member stranger asks

end Bot

end Kanban
