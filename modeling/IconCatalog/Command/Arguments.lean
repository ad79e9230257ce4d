import IconCatalog.Command.Forms
set_option autoImplicit false

namespace IconCatalog.Command

open CommandLine

structure Entry where
  name : String
  about : String
  /-- The names of its own switches. -/
  switches : List String
  usage : Styled
  help : Styled
  read : List Bytes → Except Halt Command

/-- The command of a draft. A draft without its required operand has none, and reading refuses it
before. -/
def entry {δ : Type} (form : Form δ) (build : δ → Option Command) : Entry where
  name := form.name
  about := form.about
  switches := form.switches.map (·.name)
  usage := form.usage
  help := form.help
  read arguments := (form.read arguments).bind fun draft =>
    match build draft with
    | some command => .ok command
    | none => .error (.help form.help)

def entries : List Entry := [
  entry listForm fun json => some (.list json),
  entry describeForm fun name => name.map .describe,
  entry pickForm fun size => size.map .pick,
  entry verifyForm fun _ => some .verify,
  entry exportForm fun d => some (.exportIcons d.names.reverse d.dir d.format),
  entry configForm fun d => some (.initConfig d.path d.force)]

def version : String := "0.1.0"

def versionText : String := programName ++ " " ++ version

def versionSwitch : String := "version"

def helpName : String := "help"

def helpAbout : String := "Print this message or the help of the given subcommand(s)"

def commandRow (name about : String) : Styled × String := ([(.literal, name)], about)

def programUsage (named : Option String) : Styled := usageOf programName named " <COMMAND>"

def programHelp : Styled :=
  helpText "Inspect and export the compiled-in icon resources" (programUsage none) [
    ⟨"Commands", entries.map (fun e => commandRow e.name e.about) ++
      [commandRow helpName helpAbout]⟩,
    ⟨"Options", [helpRow, letterRow "V" versionSwitch "Print version"]⟩]

def helpUsage : Styled := usageOf (programName ++ " " ++ helpName) none " [COMMAND]..."

def helpHelp : Styled :=
  helpText helpAbout helpUsage
    [⟨"Arguments", [(.ofString "[COMMAND]...", "Print help for the subcommand(s)")]⟩]

def named? (name : Bytes) : Option Entry :=
  entries.find? fun e => decide (Utf8.ofString e.name = name)

def unknownCommand (name : Bytes) (advice : Advice) : Halt :=
  .fault (.unknownCommand (Utf8.toStringLossy name)) advice

def commandAdvice (name : Bytes) : Advice :=
  let names := entries.map (·.name) ++ [helpName]
  ⟨commandTips (similarNames (Utf8.toStringLossy name) names), some (programUsage none), true⟩

/-- The help for a command, which has no commands of its own. The command of the help has no switch
for help. -/
def readHelp : List Bytes → Halt
  | [] => .help programHelp
  | name :: rest =>
    let found : Option (Styled × Advice) :=
      if name = Utf8.ofString helpName then some (helpHelp, ⟨[], some helpUsage, false⟩)
      else (named? name).map fun e => (e.help, .ofUsage e.usage)
    match found, rest with
    | none, _ => unknownCommand name (.ofUsage (programUsage none))
    | some (_, advice), other :: _ => unknownCommand other advice
    | some (text, _), [] => .help text

def readEscaped : List Bytes → Halt
  | [] => .helpForNothing programHelp
  | name :: _ =>
    if name = Utf8.ofString helpName || (named? name).isSome then
      let argument := Utf8.toStringLossy name
      .fault (.unknownArgument argument)
        ⟨[escapedCommandTip argument], some (programUsage none), true⟩
    else unknownCommand name (commandAdvice name)

/-- The switch of a command that is like a name. Of the commands that are named later the first
counts. -/
def laterSwitch? (name : String) (later : List Bytes) : Option Styled :=
  later.findSome? fun word =>
    (named? word).bind fun e =>
      (similarName? name e.switches).map fun similar => commandSwitchTip e.name ("--" ++ similar)

def switchAdvice (name : String) (later : List Bytes) : Advice :=
  match similarName? name [helpSwitch, versionSwitch] with
  | some similar =>
    ⟨[switchTip ("--" ++ similar)], some (programUsage (some ("--" ++ similar))), true⟩
  | none => ⟨(laterSwitch? name later).toList, some (programUsage none), true⟩

def readProgramSwitch (name : Bytes) (value : Option Bytes) (later : List Bytes) : Halt :=
  let answer? :=
    if name = Utf8.ofString helpSwitch then some (Halt.help programHelp)
    else if name = Utf8.ofString versionSwitch then some (.version versionText)
    else none
  match answer?, value with
  | none, _ =>
    .fault (.unknownArgument (longName name)) (switchAdvice (Utf8.toStringLossy name) later)
  | some _, some value =>
    .fault (.unexpectedValue (longName name) (Utf8.toStringLossy value))
      (.ofUsage (programUsage (some (longName name))))
  | some answer, none => answer

def readProgramLetters (letters : Bytes) : Halt :=
  match firstLetter letters with
  | some 'h' => .help programHelp
  | some 'V' => .version versionText
  | _ => .fault (.unknownArgument (shortName letters)) (.ofUsage (programUsage none))

/-- The command of a command line, whose first argument is its name, or the reason for which there
is none. -/
def ofArguments : List Bytes → Except Halt Command
  | [] => .error (.helpForNothing programHelp)
  | name :: rest =>
    match named? name with
    | some e => e.read rest
    | none =>
      if name = Utf8.ofString helpName then .error (readHelp rest)
      else
        match Token.of name with
        | .escape => .error (readEscaped rest)
        | .long name value => .error (readProgramSwitch name value rest)
        | .short letters => .error (readProgramLetters letters)
        | .word word => .error (unknownCommand word (commandAdvice word))

end IconCatalog.Command
