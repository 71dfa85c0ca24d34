import Kanban.Proofs.Run.Alike
import Mathlib.Data.List.Infix

/-!
Runs that are cut short.  A run that goes the way of another one either goes all of it or is stopped
by a failure on the way, and then all that it has told by then is told by the other one too.
-/
namespace Kanban.Run

theorem Alike.grows {licence : Licence} {left : Service σ} {right : Service τ} {run : Run σ α}
    {other : Run τ α} (alike : Alike licence left right run other) (world : World σ) :
    world.trace <+: (run world).2.trace := by
  induction alike generalizing world with
  | pure | fail | draw => exact List.prefix_rfl
  | emit | ask => exact List.prefix_append _ _
  | @bind α β first other next follow alike alikeNext ihFirst ihNext =>
      have begun := ihFirst world
      rcases ended : first world with ⟨failure | value, between⟩
      · rw [ended] at begun
        rw [bind_of_error ended]
        exact begun
      · rw [ended] at begun
        rw [bind_of_ok ended]
        exact begun.trans (ihNext value between)

structure StopsOnWay (cuts : Failure → Prop) (world : World σ)
    (ended whole : Except Failure α × World σ) : Prop where
  stopped : ∃ failure, cuts failure ∧ ended.1 = .error failure
  begun : world.trace <+: ended.2.trace
  onTheWay : ended.2.trace <+: whole.2.trace

structure Cut (cuts : Failure → Prop) (short long : Run σ α) : Prop where
  grows : ∀ world, world.trace <+: (long world).2.trace
  goes : ∀ world, short world = long world ∨ StopsOnWay cuts world (short world) (long world)

namespace Cut

variable {cuts : Failure → Prop}

theorem same {run : Run σ α} (grows : ∀ world, world.trace <+: (run world).2.trace) :
    Cut cuts run run where
  grows := grows
  goes _ := Or.inl rfl

theorem pure (value : α) : Cut cuts (Pure.pure value : Run σ α) (Pure.pure value) :=
  same fun _ => List.prefix_rfl

theorem emit (events : List Event) : Cut cuts (Run.emit events : Run σ Unit) (Run.emit events) :=
  same fun _ => List.prefix_append _ _

theorem of_alike {licence : Licence} {service : Service σ} {run : Run σ α}
    (alike : Alike licence service service run run) : Cut cuts run run :=
  same alike.grows

theorem grows_bind {first : Run σ α} {next : α → Run σ β}
    (onward : ∀ value world, world.trace <+: (next value world).2.trace) (world : World σ) :
    (first world).2.trace <+: ((first >>= next) world).2.trace := by
  rcases ended : first world with ⟨failure | value, between⟩
  · rw [bind_of_error ended]
  · rw [bind_of_ok ended]
    exact onward value between

theorem fail {failure : Failure} {long : Run σ α} (cutting : cuts failure)
    (grows : ∀ world, world.trace <+: (long world).2.trace) : Cut cuts (Run.fail failure) long where
  grows := grows
  goes world := Or.inr ⟨⟨failure, cutting, rfl⟩, List.prefix_rfl, grows world⟩

theorem bind {first other : Run σ α} {next follow : α → Run σ β} (cut : Cut cuts first other)
    (onward : ∀ value, Cut cuts (next value) (follow value)) :
    Cut cuts (first >>= next) (other >>= follow) := by
  have followed := fun value => (onward value).grows
  constructor
  · intro world
    exact (cut.grows world).trans (grows_bind followed world)
  · intro world
    -- Whether the first part is cut decides; the rest of the other run only tells more.
    rcases cut.goes world with same | ⟨⟨failure, cutting, failed⟩, begun, onTheWay⟩
    · rcases ended : other world with ⟨failure | value, between⟩
      · rw [ended] at same
        rw [bind_of_error same, bind_of_error ended]
        exact Or.inl rfl
      · have told := cut.grows world
        rw [ended] at same told
        rw [bind_of_ok same, bind_of_ok ended]
        rcases (onward value).goes between with again | stops
        · exact Or.inl again
        · exact Or.inr ⟨stops.stopped, told.trans stops.begun, stops.onTheWay⟩
    · right
      have ended : first world = (.error failure, (first world).2) := Prod.ext failed rfl
      rw [bind_of_error ended]
      exact ⟨⟨failure, cutting, rfl⟩, begun, onTheWay.trans (grows_bind followed world)⟩

variable {short long : Run σ α}

theorem traces (cut : Cut cuts short long) (world : World σ) :
    ∃ events more, (short world).2.trace = world.trace ++ events ∧
      (long world).2.trace = world.trace ++ (events ++ more) := by
  obtain ⟨whole, told⟩ := cut.grows world
  rcases cut.goes world with same | ⟨_, ⟨events, begun⟩, ⟨more, onTheWay⟩⟩
  · refine ⟨whole, [], (congrArg (·.2.trace) same).trans told.symm, ?_⟩
    rw [List.append_nil]
    exact told.symm
  · refine ⟨events, more, begun.symm, ?_⟩
    rw [← List.append_assoc, begun]
    exact onTheWay.symm

theorem complete (cut : Cut cuts short long) {world : World σ}
    (whole : ∀ failure, cuts failure → (short world).1 ≠ .error failure) :
    short world = long world := by
  rcases cut.goes world with same | ⟨⟨failure, cutting, refused⟩, _, _⟩
  · exact same
  · exact absurd refused (whole failure cutting)

end Cut

end Kanban.Run
