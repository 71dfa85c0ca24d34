import Kanban.Reader
import Kanban.Yaml.Node.Grammar
import Kanban.Yaml.Object.Unfolding

namespace Kanban.Yaml

def read (source : Source) : Except Refusal Tree :=
  match Document.ofSource? source with
  | .ok (some document) => document.objects.map (·.toTree document.root)
  | .ok none => .ok .null
  | .error fault => .error (.ofFault fault)

def Refusal.unreadable : Refusal → Unreadable
  | .fault reason => .flaw reason.message
  | .misuse cause => .misuse cause

def reader : Reader where
  text written := (read (.ofText written)).mapError Refusal.unreadable
  file content := (read (.ofFile content)).mapError Refusal.unreadable

end Kanban.Yaml
