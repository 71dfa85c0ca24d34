import Kanban.Proofs.Trouble.Expected
import Kanban.Settings

namespace Kanban

namespace Settings

variable {host : Host} {path : Option String} {cause : Misuse}

def writtenUsers (chat : List (Tree × Tree)) : Tree :=
  (valueOr chat "allowed_users" .null).orElse (.list [])

inductive SectionsStumble (entries : List (Tree × Tree)) : Misuse → Prop where
  | shape {name : String} {got : Tree} :
      sections entries = .error (.sectionShape name got) → got.isWritable = false →
        SectionsStumble entries .notANumeral
  | users {found : Sections} :
      sections entries = .ok found → (writtenUsers found.chat).elements? = none →
        SectionsStumble entries .wrongKind
  | user {found : Sections} {elements : List Tree} :
      sections entries = .ok found → (writtenUsers found.chat).elements? = some elements →
        elements.all Tree.isWritable = false → SectionsStumble entries .notANumeral

inductive Stumbles (host : Host) (path : Option String) : Misuse → Prop where
  | nameTooLong :
      host.find (sourcePath host path) = .error .nameTooLong → Stumbles host path .nameTooLong
  | directory :
      host.find (sourcePath host path) = .ok .directory → Stumbles host path .isDirectory
  | value {content : ByteArray} {cause : Misuse} :
      host.find (sourcePath host path) = .ok (.file content) →
        host.reader.file content = .error (.misuse cause) → Stumbles host path cause
  | sections {content : ByteArray} {entries : List (Tree × Tree)} {cause : Misuse} :
      host.find (sourcePath host path) = .ok (.file content) →
        document host.reader content = .ok (.map entries) → SectionsStumble entries cause →
          Stumbles host path cause

section

variable {entries : List (Tree × Tree)} {directory : Path}

end

/-- A host that holds a settings file, a variable that names it, and other files. -/
def hostWith (reader : Reader) (written : String)
    (others : List (List String × ByteArray) := []) : Host where
  reader := reader
  environment := [(pathVariable, "c")]
  files := (["c"], written.toUTF8) :: others

end Settings

end Kanban
