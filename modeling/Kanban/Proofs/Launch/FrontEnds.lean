import Kanban.Console
import Kanban.Proofs.Bot.Replies
import Kanban.Proofs.Settings.Loading
import Kanban.Service.Memory
import Kanban.Yaml

/-!
The two front ends.  A command line and a message that name the same task and the same words have
the same run made, and of how it ends the console shows what the chat replies.  The console has one
hurdle more: the level of its log is looked up before anything is done.
-/
namespace Kanban

namespace Console

def IsOperand (text : String) : Prop :=
  text.toList.head? ≠ some '-'

instance (text : String) : Decidable (IsOperand text) :=
  inferInstanceAs (Decidable (_ ≠ _))

section

variable {text task : String} {words : List String}

theorem Switches.word_operand (switches : Switches) (operand : IsOperand text) :
    switches.word text = .operand := by
  unfold word
  split
  next dashes => simp [IsOperand, dashes] at operand
  next dash => simp [IsOperand, dash] at operand
  next => rfl

theorem IsOperand.ne_endMark (operand : IsOperand text) : text ≠ endMark := by
  rintro rfl
  exact operand rfl

namespace Invocation

theorem beforeMark_operands (operands : ∀ word ∈ words, IsOperand word) :
    beforeMark words = words := by
  rw [beforeMark, List.takeWhile_eq_self_iff]
  intro word member
  simpa using (operands word member).ne_endMark

theorem behindMark?_operands (operands : ∀ word ∈ words, IsOperand word) :
    behindMark? words = none := by
  have nothing : words.dropWhile (· != endMark) = [] := by
    rw [List.dropWhile_eq_nil_iff]
    intro word member
    simpa using (operands word member).ne_endMark
  rw [behindMark?, nothing]

theorem checkSwitches_operands (operands : ∀ word ∈ words, IsOperand word) :
    checkSwitches words = .ok () := by
  induction words with
  | nil => rfl
  | cons word rest ih =>
      rw [checkSwitches, helpSwitches.word_operand (operands word List.mem_cons_self)]
      exact ih fun other member => operands other (List.mem_cons_of_mem _ member)

theorem checkOperands_operands (operands : ∀ word ∈ words, IsOperand word) :
    checkOperands words = .ok () := by
  have plain : words.any (fun text => helpSwitches.word text != .operand) = false := by
    rw [List.any_eq_false]
    intro word member
    simp [helpSwitches.word_operand (operands word member)]
  rw [checkOperands, beforeMark_operands operands, checkSwitches_operands operands, plain]
  rfl

theorem runCommand_operands (operands : ∀ word ∈ task :: words, IsOperand word) :
    runCommand (task :: words) = .ok (.run task words) := by
  have unmarked : endMark ∉ words := fun member =>
    (operands _ (List.mem_cons_of_mem _ member)).ne_endMark rfl
  have kept : withoutMark words = words := List.erase_of_not_mem unmarked
  rw [runCommand, checkOperands_operands operands, beforeMark_operands operands,
    behindMark?_operands operands]
  simp only [List.tail_cons, kept]
  rfl

theorem ofWords_run (operands : ∀ word ∈ task :: words, IsOperand word) :
    ofWords ("run" :: task :: words) = .ok { command := .run task words } := by
  have command : IsOperand "run" := by decide
  have all : ∀ word ∈ "run" :: task :: words, IsOperand word := by
    intro word member
    rcases List.mem_cons.mp member with rfl | member
    · exact command
    · exact operands word member
  have clear : ("run" :: task :: words).any
      (fun text => commonSwitches.word text == .ambiguous) = false := by
    rw [List.any_eq_false]
    intro word member
    simp [commonSwitches.word_operand (all word member)]
  rw [ofWords, beforeMark_operands all, clear]
  rw [if_neg Bool.false_ne_true, readFrom, if_neg command.ne_endMark,
    commonSwitches.word_operand command]
  simp only [finish, commandNamed, runCommand_operands operands]
  rfl

end Invocation

end

def Line.printed? : Line → Option String
  | printed text => some text
  | logged .. => none

def Outcome.printed (outcome : Outcome σ) : List String :=
  outcome.output.filterMap Line.printed?

def Outcome.Shows (outcome : Outcome σ) (task : String) : Except Failure Pipeline → Prop
  | .ok pipeline =>
      outcome.ending.code? = some 0 ∧ outcome.ending.complaint? = none ∧
        outcome.printed = [s!"the task {task} is done.", pipeline.shown]
  | .error (.trouble cause) =>
      outcome.ending.code? = some 1 ∧
        outcome.ending.complaint? = some s!"error [{cause.kind.word}]: {cause.message}" ∧
        outcome.printed = []
  | .error (.misuse cause) => outcome.ending = .broken cause ∧ outcome.printed = []

theorem printed_loggedLines (threshold : LogLevel) (trace : List Event) :
    (loggedLines threshold trace).filterMap Line.printed? = [] := by
  unfold loggedLines
  rw [List.filterMap_filterMap, List.filterMap_eq_nil_iff]
  intro event _
  cases event with
  | log level message =>
      dsimp only
      split <;> rfl
  | call | request => rfl

theorem runTask_apply (launch : Launch σ) (task : String) (words : List String)
    (world : World σ) :
    runTask launch task words world =
      ((launch.runWords (.text task) words world).1.map fun pipeline =>
        [s!"the task {task} is done.", pipeline.shown],
        (launch.runWords (.text task) words world).2) := by
  have parts : runTask launch task words = (do
      let pipeline ← launch.runWords (.text task) words
      return [s!"the task {task} is done.", pipeline.shown]) := by
    simp only [runTask, Launch.runWords, bind_assoc]
  rw [parts, Run.bind_apply]
  rcases launch.runWords (.text task) words world with ⟨_ | _, _⟩ <;> rfl

theorem conduct_run (launch : Launch σ) (threshold : LogLevel) (task : String)
    (words : List String) (service : σ) (draws : Draws) :
    let start : World σ := { service, draws }
    let ended := launch.runWords (.text task) words start
    let outcome := conduct launch threshold (.run task words) start
    outcome.world = ended.2 ∧ outcome.Shows task ended.1 := by
  intro start ended outcome
  have performed : perform launch (.run task words) start =
      (ended.1.map fun pipeline => [s!"the task {task} is done.", pipeline.shown], ended.2) :=
    runTask_apply launch task words start
  have told : outcome = conduct launch threshold (.run task words) start := rfl
  unfold conduct at told
  rw [performed] at told
  generalize ended = ended at told
  obtain ⟨result, later⟩ := ended
  rw [told]
  rcases result with (cause | cause) | pipeline
  · refine ⟨rfl, rfl, rfl, ?_⟩
    simp [Outcome.printed, Except.map, printed_loggedLines]
  · exact ⟨rfl, rfl, printed_loggedLines _ _⟩
  · refine ⟨rfl, rfl, rfl, ?_⟩
    simp [Outcome.printed, Except.map, printed_loggedLines, Line.printed?]

end Console

namespace Bot

theorem task_words (launch : Launch σ) {name : String} {words : List String}
    (plain : ∀ word ∈ name :: words, Text.IsWord word) :
    task launch (" ".intercalate ("/task" :: name :: words)) =
      executeWords launch (.text name) words := by
  have command : Text.IsWord "/task" := by decide
  have all : ∀ word ∈ "/task" :: name :: words, Text.IsWord word := by
    intro word member
    rcases List.mem_cons.mp member with rfl | member
    · exact command
    · exact plain word member
  rw [task, Text.words_intercalate all]
  rfl

theorem handle_words {launch : Launch σ} {user : User} {name : String} {words : List String}
    (allowed : launch.settings.isAllowed user.id = true)
    (plain : ∀ word ∈ name :: words, Text.IsWord word) :
    handle launch .task { text := " ".intercalate ("/task" :: name :: words), user } =
      executeWords launch (.text name) words := by
  have answered : handle launch .task { text := " ".intercalate ("/task" :: name :: words), user } =
      task launch (" ".intercalate ("/task" :: name :: words)) := handle_task allowed
  rw [answered, task_words launch plain]

end Bot

section

variable {host : Host} {provider : Provider σ} {settings : Settings} {task : String}
  {words : List String} {user : Bot.User}

/-- From the same board and the same draws, the command line and the message for a task make the
same calls and leave the same board, and both report how the task ended.  The exception is a level
in the settings that is none: the console ends there, before it has done or said anything. -/
theorem front_ends_agree (loaded : Settings.load host none = .ok settings)
    (plain : ∀ word ∈ task :: words, Text.IsWord word ∧ Console.IsOperand word)
    (allowed : settings.isAllowed user.id = true) (service : σ) (draws : Draws) :
    let start : World σ := { service, draws }
    let launch : Launch σ := { settings, host, provider }
    let ended := (launch.runWords (.text task) words start).1
    let console := Console.run host provider ("run" :: task :: words) start
    let text := " ".intercalate ("/task" :: task :: words)
    let chat := Bot.handle launch .task { text, user } start
    chat.1 = Bot.repliesTo (.text task) ended ∧
      match LogLevel.ofTree settings.level with
      | .ok _ => console.world.Agrees chat.2 ∧ console.Shows task ended
      | .error cause =>
          console.ending = .broken cause ∧ console.output = [] ∧ console.world = start := by
  intro start launch ended console text chat
  have read : Console.Invocation.ofWords ("run" :: task :: words) =
      .ok { command := .run task words } :=
    Console.Invocation.ofWords_run fun word member => (plain word member).2
  have replied : chat = Bot.executeWords launch (.text task) words start :=
    congrFun (Bot.handle_words allowed fun word member => (plain word member).1) start
  obtain ⟨replies, same⟩ := Bot.executeWords_apply launch (.text task) words start
  rw [← replied] at replies same
  refine ⟨replies, ?_⟩
  cases level : LogLevel.ofTree settings.level with
  | error cause =>
      have broken : console = { ending := .broken cause, world := start } := by
        simp only [console, Console.run, read, loaded, Console.threshold, level]
        rfl
      rw [broken]
      exact ⟨rfl, rfl, rfl⟩
  | ok threshold =>
      have conducted : console =
          Console.conduct launch threshold (.run task words) start := by
        simp only [console, Console.run, read, loaded, Console.threshold, level]
        rfl
      obtain ⟨left, shows⟩ := Console.conduct_run launch threshold task words service draws
      rw [← conducted] at left shows
      refine ⟨?_, shows⟩
      rw [left]
      exact same.symm

end

/-- A task that puts a card into a column; a word of the command names the card. -/
theorem front_ends_agree_on_a_new_card :
    let tasks := "board: E\nt: \x7btype: action, params: " ++
      "\x7btype: add, to: \x7bcolumn: I\x7d, card: \x7bname: ~~x~~\x7d\x7d\x7d"
    let host : Host := Settings.hostWith Yaml.reader "bot: \x7ballowed_users: [7]\x7d"
      [(["tasks.yaml"], tasks.toUTF8)]
    let text : String → Tree := .text
    let board : Memory :=
      { boards := [{ id := text "b1", name := text "E", closed := false }]
        columns := [(text "b1", [{ id := text "c1", name := text "I", closed := false }])] }
    let start : World Memory := { service := board, draws := { number := fun _ => 0 } }
    let provider : Provider Memory := .ready Memory.service
    let user : Bot.User := { id := .int 7 }
    let console := Console.run host provider ["run", "t", "x=beta"] start
    ∃ settings, Settings.load host none = .ok settings ∧ settings.isAllowed user.id = true ∧
      let launch : Launch Memory := { settings, host, provider }
      let chat := Bot.handle launch .task { text := "/task t x=beta", user } start
      chat.1 = .ok ["the task t is done.", "end"] ∧ console.world.Agrees chat.2 ∧
        chat.2.service.cards.map (·.name.shown) = ["beta"] ∧
        console.ending.code? = some 0 ∧ console.printed = ["the task t is done.", "end"] := by
  intro tasks host text board start provider user console
  have checked : ((Settings.load host none).toOption.any fun settings =>
      let launch : Launch Memory := { settings, host, provider }
      let ended := launch.runWords (.text "t") ["x=beta"] start
      settings.isAllowed (.int 7) && (LogLevel.ofTree settings.level).isOk &&
        ended.1.toOption.any (·.shown == "end") &&
          ended.2.service.cards.map (·.name.shown) == ["beta"]) = true := by
    decide +kernel
  obtain ⟨settings, loaded, holds⟩ := exists_ok checked
  simp only [Bool.and_eq_true, beq_iff_eq] at holds
  obtain ⟨⟨⟨allowed, level⟩, returned⟩, added⟩ := holds
  let launch : Launch Memory := { settings, host, provider }
  obtain ⟨pipeline, ended, written⟩ := exists_ok returned
  have shown : pipeline.shown = "end" := beq_iff_eq.mp written
  have plain : ∀ word ∈ ["t", "x=beta"], Text.IsWord word ∧ Console.IsOperand word := by decide
  obtain ⟨replies, same⟩ := @front_ends_agree Memory host provider settings "t" ["x=beta"] user
    loaded plain allowed board start.draws
  have answered : Bot.repliesTo (.text "t") (.ok pipeline) =
      .ok ["the task t is done.", "end"] := by
    rw [Bot.repliesTo, shown]
    rfl
  have joined : " ".intercalate ("/task" :: "t" :: ["x=beta"]) = "/task t x=beta" := rfl
  have sameStart : ({ service := board, draws := start.draws } : World Memory) = start := rfl
  have ran : Console.run host provider ("run" :: "t" :: ["x=beta"]) start = console := rfl
  rw [sameStart, ended, joined] at replies same
  rw [ran] at same
  cases known : LogLevel.ofTree settings.level with
  | error cause => simp [known, Except.isOk, Except.toBool] at level
  | ok threshold =>
      rw [known] at same
      obtain ⟨worlds, code, -, printed⟩ := same
      rw [shown] at printed
      refine ⟨settings, loaded, allowed, replies.trans answered, worlds, ?_, code, printed⟩
      have handled := @Bot.handle_words Memory launch user "t" ["x=beta"] allowed
        fun word member => (plain word member).1
      have left := (Bot.executeWords_apply launch (.text "t") ["x=beta"] start).2
      rw [← handled] at left
      exact (congrArg (fun board => board.cards.map (·.name.shown)) left.service).trans added

/-- A level that is none keeps the console from saying what the chat says. -/
theorem console_breaks_where_chat_replies :
    let host : Host := Settings.hostWith Yaml.reader
      "\x7bbot: \x7ballowed_users: [7]\x7d, logging: \x7blevel: BASIC_FORMAT\x7d\x7d"
    let start : World Unit := { service := (), draws := { number := fun _ => 0 } }
    let provider : Provider Unit := .ready .absent
    let user : Bot.User := { id := .int 7 }
    ∃ settings, Settings.load host none = .ok settings ∧ settings.isAllowed user.id = true ∧
      (Bot.handle { settings, host, provider } .task { text := "/task t x", user } start).1 =
        .ok ["❌ argument: argument 'x' should look like key=value"] ∧
      (Console.run host provider ["run", "t", "x"] start).ending.code? = none := by
  intro host start provider user
  have checked : ((Settings.load host none).toOption.any fun settings =>
      settings.isAllowed (.int 7) && !(LogLevel.ofTree settings.level).isOk) = true := by
    decide +kernel
  obtain ⟨settings, loaded, holds⟩ := exists_ok checked
  obtain ⟨allowed, level⟩ := Bool.and_eq_true_iff.mp holds
  refine ⟨settings, loaded, allowed, ?_, ?_⟩
  · have parted : Text.words "/task t x" = ["/task", "t", "x"] := by decide
    have permitted : Bot.isAllowed { settings, host, provider : Launch Unit }
        { text := "/task t x", user := some user } = true := allowed
    rw [Bot.handle_task permitted, Bot.task, parted]
    rfl
  · have invoked : Console.Invocation.ofWords ["run", "t", "x"] =
        .ok { command := .run "t" ["x"] } := rfl
    cases known : LogLevel.ofTree settings.level with
    | ok threshold => simp [known, Except.isOk, Except.toBool] at level
    | error cause =>
        simp [Console.run, invoked, loaded, Console.threshold, known, Console.Ending.code?]

end Kanban
