import IconCatalog.Text.Styled
set_option autoImplicit false

namespace IconCatalog.CommandLine

inductive Fault
  | unknownArgument (argument : String)
  | unknownCommand (argument : String)
  /-- A value for an option that takes none. -/
  | unexpectedValue (label value : String)
  | missingValue (label : String)
  /-- An option that may be given once is given again. -/
  | repeated (label : String)
  /-- A value that should be text is none. -/
  | notText
  | refusedValue (label value cause : String)
  | missingOperand (label : String)
  deriving DecidableEq, Repr

def Fault.problem : Fault → Styled
  | .unknownArgument argument =>
    [(.plain, "unexpected argument '"), (.refused, argument), (.plain, "' found")]
  | .unknownCommand argument =>
    [(.plain, "unrecognized subcommand '"), (.refused, argument), (.plain, "'")]
  | .unexpectedValue label value =>
    [(.plain, "unexpected value '"), (.refused, value), (.plain, "' for '"), (.literal, label),
      (.plain, "' found; no more were expected")]
  | .missingValue label =>
    [(.plain, "a value is required for '"), (.refused, label),
      (.plain, "' but none was supplied")]
  | .repeated label =>
    [(.plain, "the argument '"), (.refused, label),
      (.plain, "' cannot be used multiple times")]
  | .notText => .ofString "invalid UTF-8 was detected in one or more arguments"
  | .refusedValue label value cause =>
    [(.plain, "invalid value '"), (.refused, value), (.plain, "' for '"), (.literal, label),
      (.plain, "': " ++ cause)]
  | .missingOperand label =>
    [(.plain, "the following required arguments were not provided:\n  "), (.wanted, label)]

def usageLine (usage : Styled) : Styled := [(.title, "Usage:"), (.plain, " ")] ++ usage

/-- What is told below a fault. -/
structure Advice where
  tips : List Styled
  /-- How the command is called. -/
  usage : Option Styled
  /-- Whether there is help to read. -/
  help : Bool
  deriving DecidableEq, Repr

namespace Advice

def readHelp : Advice := ⟨[], none, true⟩

def ofUsage (usage : Styled) : Advice := ⟨[], some usage, true⟩

/-- The tips, then the usage, and where to read more, with blank lines between them. -/
def styled (advice : Advice) : Styled :=
  (if advice.tips.isEmpty then [] else [(.plain, "\n")]) ++
  (advice.tips.flatMap fun tip => [(.plain, "\n  "), (.wanted, "tip:"), (.plain, " ")] ++ tip) ++
  (advice.usage.toList.flatMap fun usage => (.plain, "\n\n") :: usageLine usage) ++
  if advice.help then
    [(.plain, "\n\nFor more information, try '"), (.literal, "--help"), (.plain, "'.\n")]
  else [(.plain, "\n")]

end Advice

def Fault.styled (fault : Fault) (advice : Advice) : Styled :=
  [(.alarm, "error:"), (.plain, " ")] ++ fault.problem ++ advice.styled

/-- The message as plain text. An escape sequence that a cause leaves open takes away what follows
the cause. -/
def Fault.message (fault : Fault) (advice : Advice) : String :=
  Terminal.shown .ends (fault.styled advice).coloured

/-- Why no command is run: a fault, or a help or version text that was asked for. -/
inductive Halt
  | help (text : Styled)
  | version (text : String)
  /-- The help for a command line that says nothing. -/
  | helpForNothing (text : Styled)
  | fault (fault : Fault) (advice : Advice)
  deriving DecidableEq, Repr

end IconCatalog.CommandLine
