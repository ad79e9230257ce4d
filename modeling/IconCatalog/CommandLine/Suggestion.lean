import IconCatalog.CommandLine.Fault
import IconCatalog.Text.Similarity
set_option autoImplicit false

namespace IconCatalog.CommandLine

/-- The likeness that a name must exceed to be suggested. -/
def leastLikeness : Float := 0.7

/-- The names that are like a text, the likest last. Of names that are equally like it the order
stays. -/
def similarNames (text : String) (names : List String) : List String :=
  let rated := names.map fun name => (similarity text name, name)
  ((rated.filter fun (likeness, _) => leastLikeness < likeness).mergeSort
    fun a b => !decide (b.1 < a.1)).map (·.2)

def similarName? (text : String) (names : List String) : Option String :=
  (similarNames text names).getLast?

def quoted (style : Style) (text : String) : Styled :=
  [(.plain, "'"), (style, text), (.plain, "'")]

def operandTip (argument : String) : Styled :=
  .ofString "to pass " ++ quoted .refused argument ++ .ofString " as a value, use " ++
    quoted .wanted ("-- " ++ argument)

def switchTip (label : String) : Styled :=
  .ofString "a similar argument exists: " ++ quoted .wanted label

def commandSwitchTip (command label : String) : Styled :=
  quoted .wanted (command ++ " " ++ label) ++ .ofString " exists"

def commandTips : List String → List Styled
  | [] => []
  | [name] => [.ofString "a similar subcommand exists: " ++ quoted .wanted name]
  | name :: rest =>
    [.ofString "some similar subcommands exist: " ++ quoted .wanted name ++
      rest.flatMap fun other => .ofString ", " ++ quoted .wanted other]

/-- A command is not looked for behind two hyphens. -/
def escapedCommandTip (name : String) : Styled :=
  .ofString "subcommand " ++ quoted .wanted name ++ .ofString " exists; to use it, remove the " ++
    quoted .refused "--" ++ .ofString " before it"

end IconCatalog.CommandLine
