import Kanban.Settings

namespace Kanban

structure Credentials where
  key : Tree
  token : Tree

namespace Settings

def credentialEntries (settings : Settings) (host : Host) :
    Except Failure (List (Tree × Tree)) := do
  let path ← (settings.resolve host settings.service.credentials).mapError Failure.misuse
  let content ← (host.read path).mapError (.ofFile (.credentialFile path.toText))
  match document host.reader content with
  | .ok (.map entries) => return entries
  | .ok _ => throw (.ofSettings (.credentialShape path.toText))
  | .error (.flaw message) => throw (.ofSettings (.credentialInvalid path.toText message))
  | .error (.misuse cause) => throw (.misuse cause)

def givenOr (found : Option String) (entries : List (Tree × Tree)) (name : String) : Tree :=
  match found with
  | some text => .text text
  | none => valueOr entries name .null

def credentials (settings : Settings) (host : Host) : Except Failure Credentials := do
  let names := settings.service
  let key ← (host.filledEntry? names.keyName).mapError Failure.misuse
  let token ← (host.filledEntry? names.tokenName).mapError Failure.misuse
  let entries ←
    if (key.isNone || token.isNone) && names.credentials.isGiven then
      settings.credentialEntries host
    else
      pure []
  let key := givenOr key entries "key"
  let token := givenOr token entries "token"
  if key.isGiven && token.isGiven then
    if key.isWritable && token.isWritable then
      return { key := .text key.shown, token := .text token.shown }
    else
      throw (.misuse .notANumeral)
  else
    throw (.ofSettings (.noCredentials names.keyName.shown names.tokenName.shown))

def client (settings : Settings) (host : Host) : Except Failure Trello := do
  let found ← settings.credentials host
  let made := Trello.connect found.key found.token settings.service.base settings.service.timeout
  made.mapError Failure.misuse

end Settings

end Kanban
