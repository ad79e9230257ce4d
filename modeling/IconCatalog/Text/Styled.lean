import IconCatalog.Text.Terminal
set_option autoImplicit false

namespace IconCatalog

inductive Style
  | plain
  | title
  /-- What can be typed as it stands. -/
  | literal
  | alarm
  /-- What should have been given. -/
  | wanted
  /-- What was given and should not have been. -/
  | refused
  deriving DecidableEq, Repr

def Style.sequence : Style → String
  | .plain => ""
  | .title => "\x1b[1m\x1b[4m"
  | .literal => "\x1b[1m"
  | .alarm => "\x1b[1m\x1b[31m"
  | .wanted => "\x1b[32m"
  | .refused => "\x1b[33m"

/-- Text in parts that a terminal sets off from each other. -/
abbrev Styled := List (Style × String)

namespace Styled

def ofString (s : String) : Styled := [(.plain, s)]

def plain (text : Styled) : String := String.join (text.map (·.2))

/-- A part with its sequence. The text after it stands as before, whatever sequence the part
leaves open. -/
def colouredPart : Style × String → String
  | (.plain, s) => s
  | (style, s) => style.sequence ++ s ++ "\x1b[0m"

def coloured (text : Styled) : String := String.join (text.map colouredPart)

/-- The text as a stream gets it that may or may not want colours. Without them all sequences are
taken away, also those in the parts. -/
def printed (colours : Bool) (text : Styled) : String :=
  if colours then text.coloured else Terminal.shown .pauses text.coloured

end Styled

end IconCatalog
