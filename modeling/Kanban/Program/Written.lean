import Kanban.Program
import Kanban.Reader

namespace Kanban.Program

def ofYaml (reader : Reader) (text : String) (arguments : Arguments)
    (caseSensitive : Bool := false) : Except Failure Program :=
  match reader.text text with
  | .ok document => ofDocument document arguments caseSensitive
  | .error (.flaw message) => .error (.ofDefinition (.invalidYaml message))
  | .error (.misuse cause) => .error (.misuse cause)

end Kanban.Program
