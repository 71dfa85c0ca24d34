import Kanban.Trouble

namespace Kanban

inductive ReportDetail where
  | none
  | field (name : Tree)
  | tag (tag : Tree)
  | status (code : Tree)

structure Report where
  kind : TroubleKind
  message : String
  detail : ReportDetail := .none

namespace Trouble

def detail : Trouble → ReportDetail
  | definition (.fieldAbsent name _) => .field (.text name)
  | definition (.unknownTag tag) => .tag (.text tag)
  | run trouble =>
      match trouble.kind, trouble.status? with
      | .board, some status => .status (.int status)
      | .board, none => .status .null
      | _, _ => .none
  | _ => .none

def report (trouble : Trouble) : Report :=
  { kind := trouble.kind, message := trouble.message, detail := trouble.detail }

end Trouble

namespace Report

/-- A report that shows its first value, which has to be a text, or else the word of its kind. -/
private def plain (kind : TroubleKind) (detail : ReportDetail) : List Tree → Except Misuse Report
  | [] => .ok { kind, message := kind.word, detail }
  | .text message :: _ => .ok { kind, message, detail }
  | _ => .error .wrongKind

private def absence (name : Tree) (node : Tree) : Report :=
  let place := match node with
    | .null => ""
    | _ => s!" in {node.literal}"
  { kind := .fieldAbsent, message := s!"{name.shown} is absent{place}", detail := .field name }

/-- An absent field is described by its name and perhaps the node it is absent from, an unknown tag
by itself, board trouble by a message and perhaps a status, and all else by a message or nothing. -/
def make (kind : TroubleKind) (values : List Tree) : Except Misuse Report :=
  match kind, values with
  | .fieldAbsent, [name] => .ok (absence name .null)
  | .fieldAbsent, [name, node] => .ok (absence name node)
  | .unrecognizedTag, [tag] =>
      .ok { kind, message := s!"the type '{tag.shown}' is not recognized", detail := .tag tag }
  | .board, [message] => plain kind (.status .null) [message]
  | .board, [message, status] => plain kind (.status status) [message]
  | .fieldAbsent, _ | .unrecognizedTag, _ | .board, _ => .error .wrongKind
  | _, _ => plain kind .none values

def chatLine (report : Report) : String :=
  s!"❌ {report.kind.word}: {report.message}"

def consoleLine (report : Report) : String :=
  s!"error [{report.kind.word}]: {report.message}"

end Report

end Kanban
