import Kanban.Yaml.Fault

namespace Kanban.Yaml

/-- A tag as it is written: a handle, which stands for the front of the name, and the rest. -/
structure TagName where
  handle : Option String := none
  rest : String
  deriving DecidableEq, Repr

inductive Token where
  | documentStart
  | documentEnd
  | listStart
  | mapStart
  | blockEnd
  | flowListStart
  | flowListEnd
  | flowMapStart
  | flowMapEnd
  | comma
  | item
  | key
  | value
  | alias (name : String)
  | anchor (name : String)
  | tag (name : TagName)
  | scalar (text : String) (plain : Bool)
  deriving DecidableEq, Repr

structure Token.Located where
  token : Token
  place : Place
  deriving DecidableEq, Repr

end Kanban.Yaml
