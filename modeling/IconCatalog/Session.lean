import IconCatalog.Environment
import IconCatalog.Files
set_option autoImplicit false

namespace IconCatalog

/-- What a run finds around it: files, variables and the home directory of the account. -/
structure Session where
  files : Files
  env : Environment
  /-- The home directory of the account, for an environment that names none. -/
  accountHome : Option Path

namespace Session

/-- The path in a variable that is neither missing nor empty. -/
def pathVariable? (session : Session) (name : String) : Option Path :=
  (session.env.get? name).bind fun bytes => if bytes = [] then none else some ⟨bytes⟩

def home? (session : Session) : Option Path :=
  (session.pathVariable? "HOME").or session.accountHome

/-- The directory for settings of all programs. A relative one in the environment does not count. -/
def configDir? (session : Session) : Option Path :=
  match (session.pathVariable? "XDG_CONFIG_HOME").filter Path.isAbsolute with
  | some dir => some dir
  | none => session.home?.map fun home => home.join (.ofString ".config")

end Session

end IconCatalog
