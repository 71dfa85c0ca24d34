import Kanban.Event
import Kanban.Text.Capital
import Kanban.Trouble

namespace Kanban.LogLevel

def usual : LogLevel :=
  info

def named? (name : String) : Option LogLevel :=
  match name with
  | "NOTSET" => some unset
  | "DEBUG" => some debug
  | "INFO" => some info
  | "WARN" | "WARNING" => some warning
  | "ERROR" => some error
  | "FATAL" | "CRITICAL" => some critical
  | _ => none

/-- The names of what is no level: a layout of lines, and a table of layouts. -/
def misnamed? (name : String) : Option Misuse :=
  match name with
  | "BASIC_FORMAT" => some .notANumeral
  | "_STYLES" => some .wrongKind
  | _ => none

def ofName (name : String) : Except Misuse LogLevel :=
  match misnamed? name with
  | some cause => .error cause
  | none => .ok ((named? name).getD usual)

def ofTree (value : Tree) : Except Misuse LogLevel :=
  if value.isWritable then ofName (Text.capitals value.shown) else .error .notANumeral

end Kanban.LogLevel
