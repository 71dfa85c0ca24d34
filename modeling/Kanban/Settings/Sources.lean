import Kanban.Settings

namespace Kanban.Settings

def textsOf (values : List Tree) : List String :=
  values.filterMap fun value =>
    match value with
    | .text text => some text
    | _ => none

def variableNames (settings : Settings) : List String :=
  textsOf [settings.service.keyName, settings.service.tokenName, settings.chat.tokenName]

def sources (settings : Settings) (host : Host) : List Path :=
  [settings.tasks.path, settings.service.credentials].filterMap fun written =>
    (settings.resolve host written).toOption

end Kanban.Settings
