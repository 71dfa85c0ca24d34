import Kanban.Bot
import Kanban.Console
import Kanban.Main
import Kanban.Service.Memory
import Kanban.Proofs.Executor.Cycles
import Kanban.Proofs.Executor.Isolation
import Kanban.Proofs.Template.Readable
import Kanban.Proofs.Template.Settled
import Kanban.Proofs.Tree.Entries
import Kanban.Proofs.Template.Composition
import Kanban.Proofs.Template.Keys
import Kanban.Proofs.Executor.Forecast
import Kanban.Proofs.Executor.Meaning
import Kanban.Proofs.Executor.Inlining
import Kanban.Proofs.Executor.Depth
import Kanban.Proofs.Task.Grammar
import Kanban.Proofs.Task.Reading
import Kanban.Proofs.Task.Language
import Kanban.Proofs.Program.Loading
import Kanban.Proofs.Executor.Unstuck
import Kanban.Proofs.Draws.Guarded
import Kanban.Proofs.Executor.Guarded
import Kanban.Proofs.Executor.Effects
import Kanban.Proofs.Bot.Strangers
import Kanban.Proofs.Trello.Answers
import Kanban.Proofs.Executor.OverTrello
import Kanban.Proofs.Trello.Secrecy
import Kanban.Proofs.Bot.Replies
import Kanban.Proofs.Launch.FrontEnds
import Kanban.Proofs.Launch.Loading
import Kanban.Proofs.Executor.Filtering
import Kanban.Proofs.Executor.Taking
import Kanban.Proofs.Executor.Placing
import Kanban.Proofs.Executor.Bringing
import Kanban.Proofs.Executor.Brought
import Kanban.Proofs.Executor.Cutting
import Kanban.Proofs.Executor.CaseFolding
import Kanban.Proofs.Template.Remaining
import Kanban.Proofs.Executor.Threading
import Kanban.Proofs.Template.Insertion
import Kanban.Proofs.Program.Insertion
import Kanban.Proofs.Number.Digits
import Kanban.Proofs.Task.Roles
import Kanban.Proofs.Tree.Replacing
import Kanban.Proofs.Task.Replacing
import Kanban.Proofs.Task.Parameters
import Kanban.Proofs.Program.Accepting
import Kanban.Proofs.Task.Unfilled
import Kanban.Proofs.Program.Listing
import Kanban.Proofs.Task.Rearranging
import Kanban.Proofs.Task.Verdict
import Kanban.Proofs.Program.Rearranging
import Kanban.Proofs.Arguments.Words
