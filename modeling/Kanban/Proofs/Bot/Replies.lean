import Kanban.Bot
import Kanban.Proofs.Run.SameWork
import Kanban.Yaml
import Mathlib.Algebra.Group.Nat.Defs
import Mathlib.Data.List.TakeWhile

namespace Kanban

def Launch.runWords (launch : Launch σ) (task : Tree) (words : List String) : Run σ Pipeline := do
  let arguments ← Run.ofExcept .ofArgument (Arguments.ofWords words)
  launch.run task arguments

/-- A pipe with a single card, on which neither a name nor a link is to be seen. -/
def Pipeline.HoldsOneBlank (pipeline : Pipeline) : Prop :=
  pipeline.phase = .pipe ∧ ∃ card, pipeline.items = [card] ∧
    (∀ c ∈ card.name.shown.toList, Text.isBlank c = true) ∧
    ∀ c ∈ card.shortUrl.shown.toList, Text.isBlank c = true

theorem Text.trimmedEnd_eq_empty {s : String} :
    trimmedEnd s = "" ↔ ∀ c ∈ s.toList, isBlank c = true := by
  rw [trimmedEnd, String.ofList_eq_empty_iff, trimEnd, List.reverse_eq_nil_iff,
    List.dropWhile_eq_nil_iff]
  simp only [List.mem_reverse]

namespace Pipeline

theorem cardLine_eq_empty {card : Card} :
    cardLine card = "" ↔ (∀ c ∈ card.name.shown.toList, Text.isBlank c = true) ∧
      ∀ c ∈ card.shortUrl.shown.toList, Text.isBlank c = true := by
  have space : Text.isBlank ' ' = true := rfl
  rw [cardLine, Text.trimmedEnd_eq_empty]
  simp [toString, or_imp, forall_and, space]

theorem shown_eq_empty (pipeline : Pipeline) : pipeline.shown = "" ↔ pipeline.HoldsOneBlank := by
  obtain ⟨phase, items⟩ := pipeline
  cases phase with
  | pipe =>
      match items with
      | [] => simp [shown, HoldsOneBlank]
      | [card] => simp [shown, HoldsOneBlank, cardLine_eq_empty]
      | card :: next :: rest => simp [shown, HoldsOneBlank]
  | init => simp [shown, HoldsOneBlank, Phase.word]
  | done => simp [shown, HoldsOneBlank, Phase.word]

end Pipeline

namespace Bot

def repliesTo (task : Tree) : Except Failure Pipeline → Except Failure (List String)
  | .ok pipeline => .ok [s!"the task {task.shown} is done.", truncate pipeline.shown]
  | .error (.trouble cause) => .ok [s!"❌ {cause.kind.word}: {cause.message}"]
  | .error (.misuse cause) => .error (.misuse cause)

theorem executeWords_apply (launch : Launch σ) (task : Tree) (words : List String)
    (world : World σ) :
    let ended := launch.runWords task words world
    let replied := executeWords launch task words world
    replied.1 = repliesTo task ended.1 ∧ replied.2.Agrees ended.2 := by
  unfold executeWords Launch.runWords
  cases Arguments.ofWords words with
  | error cause => exact ⟨rfl, .refl world⟩
  | ok arguments =>
      dsimp only [Run.ofExcept_ok]
      rw [pure_bind, execute, Run.bind_apply, Run.attempt]
      rcases launch.run task arguments world with ⟨(cause | cause) | pipeline, later⟩
      · refine ⟨rfl, rfl, rfl, ?_⟩
        simp [troubleReply, Run.bind_apply, Event.isLog]
      · exact ⟨rfl, .refl later⟩
      · exact ⟨rfl, .refl later⟩

def messageLength : Nat :=
  4096

def IsSendable (text : String) : Prop :=
  1 ≤ text.length ∧ text.length ≤ messageLength

instance (text : String) : Decidable (IsSendable text) :=
  inferInstanceAs (Decidable (_ ∧ _))

/-- The replies that are always the same, and those that are made of what has come up. -/
inductive Reply where
  | rejected
  | usage
  | noTask
  | help (task : Tree)
  | listing (names : List String)
  | refused (cause : Trouble)
  | done (task : Tree)
  | left (pipeline : Pipeline)

namespace Reply

def text : Reply → String
  | rejected => rejection
  | usage => taskUsage
  | noTask => "No default task configured. Try /help."
  | help task =>
      let more :=
        if task.isGiven then
          [s!"Any other text runs `{task.shown}` with its words as key=value arguments."]
        else
          []
      "\n".intercalate (("These commands are supported:" ::
        commands.map fun (name, description) => s!"/{name} — {description}") ++ more)
  | listing names =>
      let listed := "\n".intercalate names
      if listed.isEmpty then "No tasks defined." else listed
  | refused cause => s!"❌ {cause.kind.word}: {cause.message}"
  | done task => s!"the task {task.shown} is done."
  | left pipeline => truncate pipeline.shown

/-- Whether a reply can be sent, by what it is made of: the numbers are the characters around
that. -/
def Fits : Reply → Prop
  | rejected | usage | noTask => True
  | help task => task.isGiven = true → 185 + task.shown.length ≤ messageLength
  | listing names => ("\n".intercalate names).length ≤ messageLength
  | refused cause => 4 + cause.kind.word.length + cause.message.length ≤ messageLength
  | done task => 18 + task.shown.length ≤ messageLength
  | left pipeline => ¬ pipeline.HoldsOneBlank ∧ pipeline.shown.length < 3500 + 10 ^ 567

theorem help_sendable (task : Tree) : IsSendable (help task).text ↔ (help task).Fits := by
  have base : ("\n".intercalate ("These commands are supported:" ::
      commands.map fun (name, description) => s!"/{name} — {description}")).length = 123 := by
    decide +kernel
  have more : s!"Any other text runs `{task.shown}` with its words as key=value arguments.".length =
      61 + task.shown.length := by
    have around : "Any other text runs `".length +
      "` with its words as key=value arguments.".length = 61 := rfl
    simp only [toString, String.length_append]
    omega
  simp only [text, Fits, IsSendable]
  cases task.isGiven with
  | false =>
      rw [if_neg Bool.false_ne_true, List.append_nil, base]
      exact ⟨nofun, fun _ => by decide⟩
  | true =>
      rw [if_pos rfl, String.intercalate_append_of_ne_nil (List.cons_ne_nil _ _)
        (List.cons_ne_nil _ _), String.intercalate_singleton, String.length_append,
        String.length_append, base, more]
      have newline : "\n".length = 1 := rfl
      simp only [true_implies]
      omega

theorem listing_sendable (names : List String) :
    IsSendable (listing names).text ↔ (listing names).Fits := by
  simp only [text, Fits, IsSendable]
  generalize "\n".intercalate names = listed
  by_cases empty : listed = ""
  · subst empty
    decide
  · have filled : listed.isEmpty = false := by simpa using empty
    have positive : listed.length ≠ 0 := by simpa using empty
    rw [filled, if_neg Bool.false_ne_true]
    omega

theorem refused_sendable (cause : Trouble) :
    IsSendable (refused cause).text ↔ (refused cause).Fits := by
  have around : "❌ ".length + ": ".length = 4 := rfl
  simp only [text, Fits, IsSendable, toString, String.length_append]
  omega

theorem done_sendable (task : Tree) : IsSendable (done task).text ↔ (done task).Fits := by
  have around : "the task ".length + " is done.".length = 18 := rfl
  simp only [text, Fits, IsSendable, toString, String.length_append]
  omega

end Reply

theorem truncate_short {text : String} (short : text.length ≤ 3500) : truncate text = text := by
  have fits : (text.toList.length : Int) ≤ longestReply := by
    rw [String.length_toList, longestReply]
    omega
  exact if_pos fits

theorem length_truncate {text : String} (long : 3500 < text.length) :
    (truncate text).length = 3529 + (Nat.toDigits 10 (text.length - 3500)).length := by
  have around : (toString "\n…[truncated, ").length + (toString " chars omitted]").length = 29 :=
    rfl
  have cut : ¬ ((text.toList.length : Int) ≤ longestReply) := by
    rw [String.length_toList, longestReply]
    omega
  have left : (text.toList.length : Int) - longestReply = (text.length - 3500 : Nat) := by
    rw [String.length_toList, longestReply]
    omega
  have kept : (text.toList.take longestReply.toNat).length = 3500 := by
    rw [List.length_take, String.length_toList]
    exact Nat.min_eq_left (Nat.le_of_lt long)
  have split : truncate text = String.ofList (text.toList.take longestReply.toNat) ++
      s!"\n…[truncated, {((text.length - 3500 : Nat) : Int)} chars omitted]" := by
    rw [← left]
    exact if_neg cut
  have number : (toString ((text.length - 3500 : Nat) : Int)).length =
      (Nat.toDigits 10 (text.length - 3500)).length := by
    rw [← Nat.toList_repr, String.length_toList]
    rfl
  rw [split, String.length_append, String.length_ofList, kept, String.length_append,
    String.length_append, number]
  omega

theorem length_truncate_le {text : String} {digits : Nat} (digit : 0 < digits) :
    (truncate text).length ≤ 3529 + digits ↔ text.length < 3500 + 10 ^ digits := by
  by_cases short : text.length ≤ 3500
  · have positive : 0 < 10 ^ digits := Nat.pow_pos (by decide)
    rw [truncate_short short]
    omega
  · have counted : (Nat.toDigits 10 (text.length - 3500)).length ≤ digits ↔
        text.length - 3500 < 10 ^ digits :=
      Nat.length_toDigits_le_iff (by decide) digit
    rw [length_truncate (Nat.lt_of_not_le short)]
    omega

theorem truncate_fits {text : String} :
    (truncate text).length ≤ messageLength ↔ text.length < 3500 + 10 ^ 567 :=
  @length_truncate_le text 567 (by decide)

theorem truncate_eq_empty {text : String} : truncate text = "" ↔ text = "" := by
  by_cases short : text.length ≤ 3500
  · rw [truncate_short short]
  · have long := length_truncate (Nat.lt_of_not_le short)
    constructor
    · intro empty
      rw [empty, String.length_empty] at long
      omega
    · rintro rfl
      simp at short

/-- A reply can be sent exactly if what it is made of fits. -/
theorem Reply.sendable_iff_fits (reply : Reply) : IsSendable reply.text ↔ reply.Fits := by
  cases reply with
  | rejected | usage | noTask => exact ⟨fun _ => trivial, fun _ => by decide +kernel⟩
  | help task => exact help_sendable task
  | listing names => exact listing_sendable names
  | refused cause => exact refused_sendable cause
  | done task => exact done_sendable task
  | left pipeline =>
      have visible : 1 ≤ (truncate pipeline.shown).length ↔ ¬ pipeline.HoldsOneBlank := by
        rw [← pipeline.shown_eq_empty, ← truncate_eq_empty, ← String.length_eq_zero_iff]
        omega
      exact and_congr visible truncate_fits

/-- The task that a message asks for, and the words it gives as arguments. -/
inductive Asks (settings : Settings) (text : String) : Handler → Tree → List String → Prop where
  | named {name : String} {words : List String} :
      (Text.words text).tail = name :: words → Asks settings text .task (.text name) words
  | usual :
      settings.chat.defaultTask.isGiven = true →
        Asks settings text .text settings.chat.defaultTask (Text.words text)

/-- What a message is replied to with: everybody may ask for help, and nobody else for anything but
a rejection. -/
inductive Replies (launch : Launch σ) (message : Message) (world : World σ) :
    Handler → List Reply → Prop where
  | help :
      launch.settings.chat.defaultTask.isWritable = true →
        Replies launch message world .help [.help launch.settings.chat.defaultTask]
  | rejected {handler : Handler} :
      handler ≠ .help → isAllowed launch message = false →
        Replies launch message world handler [.rejected]
  | listed {program : Program} :
      isAllowed launch message = true → launch.program [] = .ok program →
        Replies launch message world .tasks [.listing program.names]
  | unlisted {cause : Trouble} :
      isAllowed launch message = true → launch.program [] = .error (.trouble cause) →
        Replies launch message world .tasks [.refused cause]
  | usage :
      isAllowed launch message = true → (Text.words message.text).tail = [] →
        Replies launch message world .task [.usage]
  | noTask :
      isAllowed launch message = true → launch.settings.chat.defaultTask.isGiven = false →
        Replies launch message world .text [.noTask]
  | failed {handler : Handler} {task : Tree} {words : List String} {cause : Trouble} :
      isAllowed launch message = true → Asks launch.settings message.text handler task words →
        (launch.runWords task words world).1 = .error (.trouble cause) →
          Replies launch message world handler [.refused cause]
  | ended {handler : Handler} {task : Tree} {words : List String} {pipeline : Pipeline} :
      isAllowed launch message = true → Asks launch.settings message.text handler task words →
        (launch.runWords task words world).1 = .ok pipeline →
          Replies launch message world handler [.done task, .left pipeline]

section

variable {launch : Launch σ} {message : Message} {world : World σ} {texts : List String}

theorem help_ok :
    (help launch world).1 = .ok texts ↔ launch.settings.chat.defaultTask.isWritable = true ∧
      texts = [(Reply.help launch.settings.chat.defaultTask).text] := by
  unfold help
  dsimp only
  cases launch.settings.chat.defaultTask.isWritable with
  | false => simp [Run.bind_apply]
  | true =>
      rw [@eq_comm _ texts]
      simp [Reply.text]

theorem tasks_ok :
    (tasks launch world).1 = .ok texts ↔
      (∃ program, launch.program [] = .ok program ∧
        texts = [(Reply.listing program.names).text]) ∨
      ∃ cause, launch.program [] = .error (.trouble cause) ∧
        texts = [(Reply.refused cause).text] := by
  unfold tasks Launch.load
  rw [Run.bind_apply, Run.attempt]
  simp only [@eq_comm _ texts]
  rcases launch.program [] with (cause | cause) | program
  · simp [Run.bind_apply, troubleReply, Reply.text, Trouble.report, Report.chatLine]
  · simp [Run.bind_apply]
  · simp [Run.bind_apply, Run.map_apply, Reply.text]

theorem executeWords_ok {task : Tree} {words : List String} :
    (executeWords launch task words world).1 = .ok texts ↔
      (∃ pipeline, (launch.runWords task words world).1 = .ok pipeline ∧
        texts = [(Reply.done task).text, (Reply.left pipeline).text]) ∨
      ∃ cause, (launch.runWords task words world).1 = .error (.trouble cause) ∧
        texts = [(Reply.refused cause).text] := by
  rw [(executeWords_apply launch task words world).1]
  simp only [@eq_comm _ texts]
  rcases (launch.runWords task words world).1 with (cause | cause) | pipeline
  · simp [repliesTo, Reply.text]
  · simp [repliesTo]
  · simp [repliesTo, Reply.text]

theorem task_ok :
    (task launch message.text world).1 = .ok texts ↔
      ((Text.words message.text).tail = [] ∧ texts = [Reply.usage.text]) ∨
      ∃ name words, (Text.words message.text).tail = name :: words ∧
        (executeWords launch (.text name) words world).1 = .ok texts := by
  unfold task
  rw [@eq_comm _ texts]
  cases (Text.words message.text).tail with
  | nil => simp [Reply.text]
  | cons name words => simp [and_assoc]

theorem plainText_ok :
    (plainText launch message.text world).1 = .ok texts ↔
      (launch.settings.chat.defaultTask.isGiven = false ∧ texts = [Reply.noTask.text]) ∨
      launch.settings.chat.defaultTask.isGiven = true ∧
        (executeWords launch launch.settings.chat.defaultTask (Text.words message.text) world).1 =
          .ok texts := by
  unfold plainText
  rw [@eq_comm _ texts]
  cases launch.settings.chat.defaultTask.isGiven with
  | false => simp [Reply.text]
  | true => simp

theorem reject_ok : (reject message world).1 = .ok texts ↔ texts = [Reply.rejected.text] := by
  have replied : (reject message world).1 = .ok [Reply.rejected.text] := rfl
  rw [replied, Except.ok.injEq, eq_comm]

variable {handler : Handler}

theorem replies_of_answer (may : handler = .help ∨ isAllowed launch message = true)
    (answered : (answer launch handler message.text world).1 = .ok texts) :
    ∃ replies, Replies launch message world handler replies ∧ replies.map Reply.text = texts := by
  cases handler with
  | help =>
      obtain ⟨writable, rfl⟩ := help_ok.mp answered
      exact ⟨_, .help writable, rfl⟩
  | tasks =>
      have allowed := may.resolve_left nofun
      obtain ⟨program, loaded, rfl⟩ | ⟨cause, failed, rfl⟩ := tasks_ok.mp answered
      · exact ⟨_, .listed allowed loaded, rfl⟩
      · exact ⟨_, .unlisted allowed failed, rfl⟩
  | task =>
      have allowed := may.resolve_left nofun
      obtain ⟨bare, rfl⟩ | ⟨name, words, given, executed⟩ := task_ok.mp answered
      · exact ⟨_, .usage allowed bare, rfl⟩
      · obtain ⟨pipeline, ended, rfl⟩ | ⟨cause, failed, rfl⟩ := executeWords_ok.mp executed
        · exact ⟨_, .ended allowed (.named given) ended, rfl⟩
        · exact ⟨_, .failed allowed (.named given) failed, rfl⟩
  | text =>
      have allowed := may.resolve_left nofun
      obtain ⟨absent, rfl⟩ | ⟨given, executed⟩ := plainText_ok.mp answered
      · exact ⟨_, .noTask allowed absent, rfl⟩
      · obtain ⟨pipeline, ended, rfl⟩ | ⟨cause, failed, rfl⟩ := executeWords_ok.mp executed
        · exact ⟨_, .ended allowed (.usual given) ended, rfl⟩
        · exact ⟨_, .failed allowed (.usual given) failed, rfl⟩

theorem Asks.answer_eq {asked : Tree} {words : List String}
    (asks : Asks launch.settings message.text handler asked words) :
    answer launch handler message.text = executeWords launch asked words := by
  cases asks with
  | named given => rw [answer, task, given]
  | usual given =>
      rw [answer, plainText]
      exact if_pos given

theorem answer_of_replies {replies : List Reply} (may : handler = .help ∨ isAllowed launch message)
    (given : Replies launch message world handler replies) :
    (answer launch handler message.text world).1 = .ok (replies.map Reply.text) := by
  cases given with
  | help writable => exact help_ok.mpr ⟨writable, rfl⟩
  | rejected other stranger => simp [other, stranger] at may
  | listed _ loaded => exact tasks_ok.mpr (Or.inl ⟨_, loaded, rfl⟩)
  | unlisted _ failed => exact tasks_ok.mpr (Or.inr ⟨_, failed, rfl⟩)
  | usage _ bare => exact task_ok.mpr (Or.inl ⟨bare, rfl⟩)
  | noTask _ absent => exact plainText_ok.mpr (Or.inl ⟨absent, rfl⟩)
  | failed _ asks failed =>
      rw [asks.answer_eq]
      exact executeWords_ok.mpr (Or.inr ⟨_, failed, rfl⟩)
  | ended _ asks ended =>
      rw [asks.answer_eq]
      exact executeWords_ok.mpr (Or.inl ⟨_, ended, rfl⟩)

theorem handle_ok :
    (handle launch handler message world).1 = .ok texts ↔
      ∃ replies, Replies launch message world handler replies ∧ replies.map Reply.text = texts := by
  unfold handle
  by_cases may : handler = .help ∨ isAllowed launch message = true
  · rw [if_pos may]
    constructor
    · exact replies_of_answer may
    · rintro ⟨replies, given, rfl⟩
      exact answer_of_replies may given
  · obtain ⟨other, stranger⟩ := not_or.mp may
    rw [Bool.not_eq_true] at stranger
    rw [if_neg may, reject_ok]
    constructor
    · rintro rfl
      exact ⟨_, .rejected other stranger, rfl⟩
    · rintro ⟨replies, given, rfl⟩
      cases given with
      | help => exact absurd rfl other
      | rejected => rfl
      | listed allowed | unlisted allowed | usage allowed | noTask allowed | failed allowed
      | ended allowed =>
          rw [stranger] at allowed
          cases allowed

end

/-- What is replied to a message, and that a reply can be sent exactly if what it is made of fits.
The state that a run leaves is cut, but it is empty for a single card that shows nothing; trouble,
the list of tasks, the name of a task and the offer of the usual task are not cut. -/
theorem replies_are_sendable_if_they_fit (launch : Launch σ) (handler : Handler)
    (message : Message) (world : World σ) :
    (∀ texts, (handle launch handler message world).1 = .ok texts ↔
      ∃ replies, Replies launch message world handler replies ∧
        replies.map Reply.text = texts) ∧
      ∀ reply : Reply, IsSendable reply.text ↔ reply.Fits :=
  ⟨fun _ => handle_ok, Reply.sendable_iff_fits⟩

theorem task_shapeless (launch : Launch σ) {name word : String} (isName : Text.IsWord name)
    (isWord : Text.IsWord word) (shapeless : '=' ∉ word.toList) (world : World σ) :
    task launch (" ".intercalate ["/task", name, word]) world =
      (.ok [(Reply.refused (.argument (.shapeless word))).text], world) := by
  have command : Text.IsWord "/task" := by decide
  have plain : ∀ part ∈ ["/task", name, word], Text.IsWord part := by
    simp [command, isName, isWord]
  have refused : Arguments.ofWords [word] = .error (.shapeless word) := by
    simp [Arguments.ofWords, Arguments.addWords, Arguments.splitWord, shapeless]
  simp only [task, Text.words_intercalate plain, List.tail_cons, executeWords, refused]
  rfl

def row (count : Nat) : String :=
  String.ofList (List.replicate count 'x')

section

variable {count : Nat}

theorem eq_of_mem_row {c : Char} (member : c ∈ (row count).toList) : c = 'x' := by
  rw [row, String.toList_ofList] at member
  exact List.eq_of_mem_replicate member

theorem length_row : (row count).length = count := by
  rw [row, String.length_ofList, List.length_replicate]

theorem isWord_row (positive : 0 < count) : Text.IsWord (row count) := by
  constructor
  · intro empty
    have length := @length_row count
    rw [empty, String.length_empty] at length
    omega
  · intro c member
    rw [eq_of_mem_row member]
    rfl

theorem handle_task {launch : Launch σ} {message : Message}
    (allowed : isAllowed launch message = true) :
    handle launch .task message = task launch message.text :=
  if_pos (Or.inr allowed)

theorem task_row (launch : Launch σ) (positive : 0 < count) (world : World σ) :
    ∃ text, task launch (" ".intercalate ["/task", "t", row count]) world = (.ok [text], world) ∧
      text.length = count + 50 := by
  have isName : Text.IsWord "t" := by decide
  have shapeless : '=' ∉ (row count).toList := fun member => nomatch eq_of_mem_row member
  refine ⟨_, task_shapeless launch isName (isWord_row positive) shapeless world, ?_⟩
  have around : "❌ ".length + TroubleKind.argument.word.length + ": ".length +
      "argument '".length + "' should look like key=value".length = 50 := rfl
  simp only [Reply.text, Trouble.kind, Trouble.message, ArgumentTrouble.message, toString,
    String.length_append, length_row]
  omega

end

/-- A message that is as long as one can be makes a reply that is longer, and for a single card that
shows nothing the reply is empty. -/
theorem replies_too_long_and_empty :
    let settings : Settings := { chat := { users := ["7"] }, directory := { slashes := 1 } }
    let host : Host := { reader := Yaml.reader }
    let launch : Launch Unit := { settings, host, provider := .ready .absent }
    let message : Message :=
      { text := " ".intercalate ["/task", "t", row 4088], user := some { id := .int 7 } }
    let blank : Card :=
      { id := .text "k", name := .text "", description := .text "", columnId := .text "c"
        labelIds := [], position := 1.0, url := .text "", shortUrl := .text "" }
    (∃ text, (handle launch .task message { service := (), draws := { number := fun _ => 0 } }).1 =
        .ok [text] ∧ messageLength < text.length) ∧
      (Reply.left (.holding [blank])).text = "" := by
  intro settings host launch message blank
  have allowed : isAllowed launch message = true := rfl
  have nothing : (Reply.left (.holding [blank])).text = "" := by decide +kernel
  obtain ⟨text, replied, long⟩ :=
    @task_row 4088 Unit launch (by decide) { service := (), draws := { number := fun _ => 0 } }
  refine ⟨⟨text, ?_, by rw [long]; decide⟩, nothing⟩
  rw [handle_task allowed]
  exact congrArg Prod.fst replied

end Bot

end Kanban
