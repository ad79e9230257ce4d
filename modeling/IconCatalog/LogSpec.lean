import IconCatalog.Environment
import IconCatalog.Pattern.Refusal
import IconCatalog.Text.Basic
set_option autoImplicit false

namespace IconCatalog

inductive LogFault
  | manySlashes (spec : String)
  /-- A level, or a whole entry, that means nothing. -/
  | entry (text : String)
  | pattern (text : String) (refusal : Pattern.Refusal)
  deriving DecidableEq, Repr

def LogFault.message : LogFault → String
  | .manySlashes spec => "invalid logging spec '" ++ spec ++ "' (too many '/'s)"
  | .entry text => "invalid logging spec '" ++ text ++ "'"
  | .pattern text refusal => "invalid regex filter - " ++ refusal.message text

namespace LogSpec

def variableName : String := "RUST_LOG"

def levelNames : List String := ["off", "error", "warn", "info", "debug", "trace"]

def isLevel (text : List Char) : Bool :=
  String.ofList (text.map Char.toLower) ∈ levelNames

/-- What is wrong with an entry: a level, a name, or a name and its level. -/
def entryFault? (entry : List Char) : Option LogFault :=
  match entry.splitOn '=' with
  | [] | [_] => none
  | [_, level] =>
    let level := trimEnd (trimStart level)
    if level.isEmpty || isLevel level then none else some (.entry (String.ofList level))
  | _ => some (.entry (String.ofList entry))

def entryFaults (entries : List Char) : List LogFault :=
  ((entries.splitOn ',').map fun entry => trimEnd (trimStart entry)).filterMap entryFault?

def patternFault? (pattern : List Char) : Option LogFault :=
  (Pattern.refusal? (String.ofList pattern)).map (.pattern (String.ofList pattern))

/-- What is wrong in the variable that says which records are shown: entries with a level each, and
behind a slash a pattern that the messages are searched for. It is told and then passed over. -/
def faults (spec : String) : List LogFault :=
  match spec.toList.splitOn '/' with
  | [] => []
  | [entries] => entryFaults entries
  | [entries, pattern] => entryFaults entries ++ (patternFault? pattern).toList
  | _ => [.manySlashes spec]

def warnings (env : Environment) : String :=
  match env.text? variableName with
  | none => ""
  | some spec =>
    String.join ((faults spec).map fun fault => "warning: " ++ fault.message ++ ", ignoring it\n")

end LogSpec

end IconCatalog
