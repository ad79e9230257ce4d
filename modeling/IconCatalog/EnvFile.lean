import IconCatalog.Environment
import IconCatalog.EnvFile.Assignment
import IconCatalog.EnvFile.Line
import IconCatalog.Files
import IconCatalog.Text.Quoted
set_option autoImplicit false

namespace IconCatalog

/-- A variable that no environment can hold, because its value has a zero byte. -/
structure UnsettableVariable where
  name : String
  value : String
  deriving DecidableEq, Repr

def UnsettableVariable.message (v : UnsettableVariable) : String :=
  "failed to set environment variable `" ++ Quoted.text v.name ++ "` to `" ++
    Quoted.text v.value ++ "`: file name contained an unexpected NUL byte"

namespace EnvFile

/-- The value for a name in a value: that of the environment, else the one that the file itself
gave before. -/
def lookup (env : Environment) (known : List (String × String)) (name : String) : String :=
  (((env.behind? name).bind Utf8.toString?).or (known.lookup name)).getD ""

/-- Sets a variable that is not text yet. -/
def assign (env : Environment) (key value : String) : Except UnsettableVariable Environment :=
  if (env.text? key).isSome then .ok env
  else if value.toList.contains '\x00' then .error ⟨key, value⟩
  else .ok (env.set key (Utf8.ofString value))

def mergeLines (known : List (String × String)) (env : Environment) :
    List (Option (List Char)) → EStateM.Result UnsettableVariable Environment Unit
  | [] => .ok () env
  | none :: _ => .ok () env
  | some line :: rest =>
    match meaning line with
    | .nothing => mergeLines known env rest
    | .malformed => .ok () env
    | .assignment key written =>
      match valueOf (lookup env known) written with
      | none => .ok () env
      | some value =>
        match assign env key value with
        | .error fault => .error fault env
        | .ok env => mergeLines ((key, value) :: known) env rest

/-- The environment after an env file. A variable that is text already keeps its value, and the
first malformed line ends the file. -/
def merge (file : Bytes) (env : Environment) :
    EStateM.Result UnsettableVariable Environment Unit :=
  mergeLines [] env (lines file)

def fileName : Name := Utf8.ofString ".env"

/-- The nearest env file at a directory or above it. -/
def nearest? (tree : FileTree) : Location → Option Content
  | [] =>
    match tree.node? [fileName] with
    | some (.file content) => some content
    | _ => none
  | name :: outer =>
    match tree.node? (fileName :: name :: outer) with
    | some (.file content) => some content
    | _ => nearest? tree outer

/-- The env file that counts in the working directory. None does where the path of that directory
is too long to look for one, or where the directory has been taken away. -/
def ofWorkingDirectory? (files : Files) : Option Content :=
  match files.cwd with
  | .lost _ _ => none
  | .inTree loc =>
    if files.tree.node? loc = some .directory ∧
        (Location.path (fileName :: loc)).bytes.length ≤ maxPath then
      nearest? files.tree loc
    else none

end EnvFile

end IconCatalog
