import IconCatalog.CommandLine.Fault
import IconCatalog.Text.Basic
import IconCatalog.Text.Utf8
set_option autoImplicit false

namespace IconCatalog.CommandLine

inductive ValueFault
  | missing
  | notText
  | refused (cause : String)
  deriving DecidableEq, Repr

inductive Taking (δ : Type)
  | nothing (store : δ → δ)
  | value (label : String) (store : Bytes → δ → Except ValueFault δ)

/-- An argument with a name of its own. -/
structure Switch (δ : Type) where
  name : String
  about : String
  taking : Taking δ

/-- The arguments without names: one that is required, or any number. -/
structure Operand (δ : Type) where
  label : String
  about : String
  repeats : Bool
  store : Bytes → δ → Except ValueFault δ

/-- What a command takes, and how it is described. Values are stored in a draft of type `δ` as they
are read. -/
structure Form (δ : Type) where
  name : String
  about : String
  switches : List (Switch δ)
  operand : Option (Operand δ)
  blank : δ

def programName : String := "respack"

def helpSwitch : String := "help"

variable {δ : Type}

def Switch.label (switch : Switch δ) : String :=
  match switch.taking with
  | .nothing _ => "--" ++ switch.name
  | .value label _ => "--" ++ switch.name ++ " <" ++ label ++ ">"

def Operand.shownLabel (operand : Operand δ) : String :=
  if operand.repeats then "[" ++ operand.label ++ "]..." else "<" ++ operand.label ++ ">"

structure Section where
  title : String
  rows : List (Styled × String)

def paddedRow (width : Nat) (row : Styled × String) : Styled :=
  let blanks := List.replicate (width - row.1.plain.length) ' '
  row.1 ++ .ofString (String.ofList blanks ++ "  " ++ row.2)

/-- The description stands two columns behind the longest label. -/
def Section.write (part : Section) : Styled :=
  let width := (part.rows.map fun row => row.1.plain.length).foldl max 0
  (.title, part.title ++ ":") ::
    part.rows.flatMap fun row => (.plain, "\n  ") :: paddedRow width row

def helpText (about : String) (usage : Styled) (sections : List Section) : Styled :=
  (.plain, about ++ "\n\n") :: usageLine usage ++
    sections.flatMap fun part => (.plain, "\n\n") :: part.write

def usageOf (command : String) (named : Option String) (arguments : String) : Styled :=
  (.literal, command) ::
    (named.toList.flatMap fun label => [(.plain, " "), (.literal, label)]) ++
    [(.plain, arguments)]

def letterRow (letter name about : String) : Styled × String :=
  ([(.literal, "-" ++ letter), (.plain, ", "), (.literal, "--" ++ name)], about)

def helpRow : Styled × String := letterRow "h" helpSwitch "Print help"

def Switch.row (switch : Switch δ) : Styled × String :=
  let name : Styled := [(.plain, "    "), (.literal, "--" ++ switch.name)]
  match switch.taking with
  | .nothing _ => (name, switch.about)
  | .value label _ => (name ++ .ofString (" <" ++ label ++ ">"), switch.about)

namespace Form

def title (form : Form δ) : String := programName ++ " " ++ form.name

def usage (form : Form δ) : Styled :=
  usageOf form.title none (String.join ((if form.switches.isEmpty then [] else [" [OPTIONS]"]) ++
    form.operand.toList.map fun operand => " " ++ operand.shownLabel))

def choice (form : Form δ) : String :=
  "<" ++ joined "|" ((form.operand.toList.map fun operand => operand.label) ++
    form.switches.map Switch.label) ++ ">"

/-- How a command is called when a switch is named, or when some of its arguments are there. -/
def usageWith (form : Form δ) (named : Option String) (started : Bool) : Styled :=
  usageOf form.title named
    (if started then " " ++ form.choice
    else String.join (form.operand.toList.map fun operand => " " ++ operand.shownLabel))

def help (form : Form δ) : Styled :=
  let operands := form.operand.toList.map fun operand =>
    Section.mk "Arguments" [(.ofString operand.shownLabel, operand.about)]
  helpText form.about form.usage
    (operands ++ [⟨"Options", form.switches.map Switch.row ++ [helpRow]⟩])

end Form

end IconCatalog.CommandLine
