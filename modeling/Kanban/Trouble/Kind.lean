namespace Kanban

inductive TroubleKind where
  | any
  | definition
  | fieldAbsent
  | typeMismatch
  | unrecognizedTag
  | document
  | running
  | notFound
  | noPipe
  | cycle
  | board
  | settings
  | argument
  deriving DecidableEq, Repr

namespace TroubleKind

def word : TroubleKind → String
  | any => "flow"
  | definition => "compile"
  | fieldAbsent => "field_absent"
  | typeMismatch => "type_mismatch"
  | unrecognizedTag => "unrecognized_tag"
  | document => "document"
  | running => "runtime"
  | notFound => "not_found"
  | noPipe => "no_pipe"
  | cycle => "cycle"
  | board => "board"
  | settings => "config"
  | argument => "argument"

def broader : TroubleKind → List TroubleKind
  | any => []
  | definition | running | settings | argument => [any]
  | fieldAbsent | typeMismatch | unrecognizedTag | document => [definition, any]
  | notFound | noPipe | cycle | board => [running, any]

end TroubleKind

end Kanban
