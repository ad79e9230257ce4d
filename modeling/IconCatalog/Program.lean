import IconCatalog.Command.Arguments
import IconCatalog.LogSpec
import IconCatalog.Run
set_option autoImplicit false

namespace IconCatalog

/-- What a process leaves behind besides its files. -/
structure Exit where
  status : UInt32
  output : Bytes
  errors : String

namespace Program

/-- A cause below a message, with the lines after its first indented as well. -/
def indented (cause : String) : String :=
  "    " ++ String.ofList (cause.toList.flatMap fun c => if c = '\n' then "\n    ".toList else [c])

def report : List String → String
  | [] => ""
  | [message] => "Error: " ++ message ++ "\n"
  | message :: causes =>
    "Error: " ++ message ++ "\n\nCaused by:\n" ++ joined "\n" (causes.map indented) ++ "\n"

def isSet (env : Environment) (name : String) : Bool :=
  match env.get? name with
  | none | some [] => false
  | some _ => true

/-- Whether help and messages keep their colours. Where nothing demands them they do not. -/
def colours (env : Environment) : Bool := isSet env "CLICOLOR_FORCE" && !isSet env "NO_COLOR"

def exitOfHalt (colours : Bool) : CommandLine.Halt → Exit
  | .help text => ⟨0, Utf8.ofString (text.printed colours ++ "\n"), ""⟩
  | .version text => ⟨0, Utf8.ofString (text ++ "\n"), ""⟩
  | .helpForNothing text => ⟨2, [], text.printed colours ++ "\n"⟩
  | .fault fault advice => ⟨2, [], (fault.styled advice).printed colours⟩

def exitOfRun : EStateM.Result (RunFault LoadFault) Run Unit → Exit
  | .ok () run => ⟨0, run.printed, ""⟩
  | .error (.load (.unsettable fault)) run => ⟨101, run.printed, fault.message ++ "\n"⟩
  | .error fault run => ⟨1, run.printed, report (fault.messages LoadFault.messages)⟩

def outcome (arguments : List Bytes) (session : Session) : Exit × Files :=
  match Command.ofArguments arguments with
  | .error halt => (exitOfHalt (colours session.env) halt, session.files)
  | .ok command =>
    let result := command.run Settings.load (.start session none)
    (exitOfRun result,
      match result with
      | .ok _ run => run.session.files
      | .error _ run => run.session.files)

/-- Runs the program. It warns of its logging variable before all else. Variables that an env file
sets end with the process; files stay. -/
def execute (arguments : List Bytes) (session : Session) : Exit × Files :=
  let (exit, files) := outcome arguments session
  ({ exit with errors := LogSpec.warnings session.env ++ exit.errors }, files)

end Program

end IconCatalog
