import Kanban.Trouble

namespace Kanban

/-- Why there is no value: a flaw of what is written, which can be told, or a value of a known type
that cannot be made. -/
inductive Unreadable where
  | flaw (message : String)
  | misuse (cause : Misuse)

/-- A reader of YAML.  Nothing is known of it but what it makes of a text and of the bytes of a
file, which it decodes by itself. -/
structure Reader where
  text : String → Except Unreadable Tree
  file : ByteArray → Except Unreadable Tree

end Kanban
