import Kanban.Proofs.Draws.Distinct
import Kanban.Proofs.Executor.Alike
import Kanban.Proofs.Service.Calls

/-!
Bringing the cards of the pipe to a column, as copies or as they are.  There is one write for each
card, in the order of the pipe, and each is made at a place that depends on what the service is
asked right before it.
-/
namespace Kanban

inductive Errand where
  | copying
  | moving

namespace Errand

def action (errand : Errand) (target : Target) : Action :=
  match errand with
  | copying => .copy target
  | moving => .move target

def message (errand : Errand) (column : Column) (cards : List Card) : String :=
  match errand with
  | copying => s!"Copy {cards.length} cards to {column.name.shown}"
  | moving => s!"Move {cards.length} cards to {column.name.shown}"

def write (errand : Errand) (column : Tree) (card : Card) (landing : Landing Float) :
    Service.Call Card :=
  match errand with
  | copying =>
      let draft : Draft :=
        { column, name := card.name, position := Executor.position landing, source := card.id }
      .create draft
  | moving => .move card.id column (Executor.position landing)

end Errand

/-- What has to be asked before a place in a column is known. -/
def Place.reads (place : Place) (column : Tree) : List BoardCall :=
  match place with
  | .random => [.cardsIn column]
  | _ => []

namespace Errand

def leg (errand : Errand) (place : Place) (column : Tree) (card : Card)
    (landing : Landing Float) : List BoardCall :=
  place.reads column ++ [(errand.write column card landing).recorded]

def legs (errand : Errand) (place : Place) (column : Tree) (cards : List Card)
    (landings : List (Landing Float)) : List BoardCall :=
  (List.zipWith (errand.leg place column) cards landings).flatten

end Errand

/-- Where the next card goes: to a word for a place, or to a gap of the column as it is, which one
draw chooses. -/
inductive Service.Lands (service : Service σ) (column : Tree) (state : σ) (draws : Draws) :
    Place → Landing Float → Prop where
  | top : Lands service column state draws .top .top
  | bottom : Lands service column state draws .bottom .bottom
  | random {cards : List Card} {positions : List Float} :
      (service.cardsIn column state).result = .ok cards →
      positions = Executor.ascending (cards.map (·.position)) →
      Lands service column state draws .random
        (.inGap Executor.midpoint positions (draws.below (positions.length + 1)).1)

namespace Executor

def bring (executor : Executor σ) (errand : Errand) (target : Column) (place : Place) :
    List Card → Run σ Unit
  | [] => return
  | card :: rest => do
      let landing ← executor.landing place target.id
      let _ ← Run.ask (executor.service.answer (errand.write target.id card landing))
      executor.bring errand target place rest

/-- The first column of the name among those that the service knows, and the cards of the pipe.  The
column is missed first, the pipe only where there is one. -/
def aimed (executor : Executor σ) (target : Target) (pipeline : Pipeline) (state : σ) :
    Except Failure (Column × List Card) :=
  match (executor.service.columns executor.board state).result with
  | .error failure => .error failure
  | .ok known =>
      match Service.columnNamed? known (.text target.column), pipeline.cards with
      | none, _ => .error (.ofRun (.columnMissing target.column))
      | some _, .error cause => .error (.ofRun cause)
      | some column, .ok cards => .ok (column, cards)

section

variable {service : Service σ} {errand : Errand} {place : Place} {column : Tree} {card : Card}
  {cards : List Card} {landing : Landing Float} {landings : List (Landing Float)}

@[simp] theorem legs_nil : errand.legs place column cards [] = [] := by
  simp [Errand.legs]

@[simp] theorem legs_cons :
    errand.legs place column (card :: cards) (landing :: landings) =
      errand.leg place column card landing ++ errand.legs place column cards landings := rfl

theorem write_isWrite : (errand.write column card landing).recorded.isWrite = true := by
  cases errand <;> rfl

theorem writes_reads : (place.reads column).countP (·.isWrite) = 0 := by
  cases place <;> rfl

theorem writes_legs (short : landings.length ≤ cards.length) :
    (errand.legs place column cards landings).countP (·.isWrite) = landings.length := by
  induction landings generalizing cards with
  | nil => simp
  | cons landing rest ih =>
      cases cards with
      | nil => cases short
      | cons card others =>
          simp [Errand.leg, write_isWrite, writes_reads, ih (Nat.le_of_succ_le_succ short)]

/-- How an errand goes: where the cards land that it comes to, the calls that it makes, and how it
ends. -/
structure Course (service : Service σ) (errand : Errand) (place : Place) (column : Tree)
    (cards : List Card) (state : σ) (draws : Draws) (landings : List (Landing Float))
    (calls : List BoardCall) (result : Except Failure α) : Prop where
  within : landings.length ≤ cards.length
  lands : ∀ index landing, landings[index]? = some landing →
    service.Lands column
      (service.replay state (errand.legs place column cards (landings.take index)))
      (draws.after index) place landing
  made : calls = errand.legs place column cards landings ∨
    landings.length < cards.length ∧
      calls = errand.legs place column cards landings ++ place.reads column
  served : ∀ value, result = .ok value →
    landings.length = cards.length ∧ service.Serves state calls
  stopped : ∀ failure, result = .error failure → service.StopsWith failure state calls

section

variable {state : σ} {draws : Draws} {calls : List BoardCall} {result : Except Failure α}

theorem Course.map
    (course : Course service errand place column cards state draws landings calls result)
    (value : β) :
    Course service errand place column cards state draws landings calls
      (result.map fun _ => value) := by
  cases result with
  | error failure =>
      refine ⟨course.within, course.lands, course.made, nofun, ?_⟩
      rintro other ⟨⟩
      exact course.stopped failure rfl
  | ok ended =>
      exact ⟨course.within, course.lands, course.made, fun _ _ => course.served ended rfl, nofun⟩

theorem Course.writes
    (course : Course service errand place column cards state draws landings calls result) :
    calls.countP (·.isWrite) = landings.length := by
  rcases course.made with rfl | ⟨_, rfl⟩
  · exact writes_legs course.within
  · rw [List.countP_append, writes_reads, writes_legs course.within, Nat.add_zero]

theorem Course.ended
    (course : Course service errand place column cards state draws landings calls result) :
    (service.Serves state calls → ∃ value, result = .ok value) ∧
      ∀ before call after failure, calls = before ++ call :: after →
        (service.respond (service.replay state before) call).1 = some failure →
        after = [] ∧ result = .error failure := by
  cases result with
  | ok value =>
      refine ⟨fun _ => ⟨value, rfl⟩, ?_⟩
      rintro before call after failure rfl refused
      cases (course.served value rfl).2.accepts.symm.trans refused
  | error cause =>
      have stops := course.stopped cause rfl
      refine ⟨?_, fun before call after failure split refused => ?_⟩
      · obtain ⟨before, last, rfl, _, refused⟩ := stops
        intro served
        cases served.accepts.symm.trans refused
      · obtain ⟨rfl, rfl⟩ := stops.last split refused
        exact ⟨rfl, rfl⟩

end

theorem lands_of_draws {state : σ} {draws other : Draws}
    (lands : service.Lands column state draws place landing)
    (same : place = .random → draws = other) :
    service.Lands column state other place landing := by
  cases lands with
  | top => exact .top
  | bottom => exact .bottom
  | random answered sorted =>
      rw [same rfl]
      exact .random answered sorted

structure Landed (service : Service σ) (place : Place) (column : Tree) (world between : World σ)
    (landing : Landing Float) : Prop where
  lands : service.Lands column world.service world.draws place landing
  told : between.trace = world.trace ++ (place.reads column).map .call
  state : between.service = service.replay world.service (place.reads column)
  served : service.Serves world.service (place.reads column)
  draws : place = .random → between.draws = world.draws.after 1

theorem Course.cons {world between : World σ} {later : σ} {calls : List BoardCall}
    {result : Except Failure Unit} (landed : Landed service place column world between landing)
    (written : service.respond between.service (errand.write column card landing).recorded =
      (none, later))
    (onward : Course service errand place column cards later between.draws landings calls result) :
    Course service errand place column (card :: cards) world.service world.draws
      (landing :: landings) (errand.leg place column card landing ++ calls) result := by
  have state : service.replay world.service (errand.leg place column card landing) = later := by
    rw [Errand.leg, Service.replay_append, ← landed.state]
    exact congrArg Prod.snd written
  have served : service.Serves world.service (errand.leg place column card landing) := by
    refine Service.serves_append.mpr ⟨landed.served, ?_⟩
    rw [← landed.state]
    exact ⟨congrArg Prod.fst written, trivial⟩
  constructor
  case within => exact Nat.succ_le_succ onward.within
  case lands =>
    intro index other there
    cases index with
    | zero =>
        cases there
        exact landed.lands
    | succ index =>
        rw [List.take_succ_cons, legs_cons, Service.replay_append, state]
        refine lands_of_draws (onward.lands index other there) fun random => ?_
        rw [landed.draws random, Draws.after_after, Nat.add_comm]
  case made =>
    rw [legs_cons, List.append_assoc]
    rcases onward.made with rfl | ⟨short, rfl⟩
    · exact Or.inl rfl
    · exact Or.inr ⟨Nat.succ_lt_succ short, rfl⟩
  case served =>
    intro value done
    obtain ⟨length, servedOn⟩ := onward.served value done
    refine ⟨congrArg (· + 1) length, Service.serves_append.mpr ⟨served, ?_⟩⟩
    rwa [state]
  case stopped =>
    intro failure failed
    refine Service.StopsWith.behind served ?_
    rw [state]
    exact onward.stopped failure failed

theorem Course.refused {world between : World σ} {later : σ} {failure : Failure}
    (landed : Landed service place column world between landing)
    (refused : service.respond between.service (errand.write column card landing).recorded =
      (some failure, later)) :
    Course service errand place column (card :: cards) world.service world.draws [landing]
      (errand.leg place column card landing) (.error failure : Except Failure α) := by
  have whole : errand.legs place column (card :: cards) [landing] =
      errand.leg place column card landing := by
    rw [legs_cons, legs_nil, List.append_nil]
  constructor
  case within => exact Nat.succ_le_succ (Nat.zero_le _)
  case lands =>
    intro index other there
    cases index with
    | zero =>
        cases there
        exact landed.lands
    | succ index => cases there
  case made => exact Or.inl whole.symm
  case served => exact nofun
  case stopped =>
    rintro other ⟨⟩
    refine Service.StopsWith.behind landed.served ⟨[], _, rfl, trivial, ?_⟩
    rw [← landed.state]
    exact congrArg Prod.fst refused

end

end Executor

end Kanban
