import Kanban.Proofs.Program.Refusals
import Kanban.Proofs.Settings.Loading
import Kanban.Yaml

namespace Kanban

end Kanban
