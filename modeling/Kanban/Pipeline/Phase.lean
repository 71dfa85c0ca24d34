namespace Kanban

inductive Phase where
  | init
  | pipe
  | done
  deriving DecidableEq, Repr

def Phase.word : Phase → String
  | init => "init"
  | pipe => "pipe"
  | done => "end"

end Kanban
