import IconCatalog.Pattern.Literals
import IconCatalog.Pattern.Machine
import IconCatalog.Pattern.Meaning
import IconCatalog.Pattern.Reading
set_option autoImplicit false

namespace IconCatalog.Pattern

inductive Refusal
  | faulty (fault : Fault)
  | tooLarge
  | noWordTable
  deriving DecidableEq, Repr

def Refusal.message (pattern : String) : Refusal → String
  | .faulty fault => fault.message pattern
  | .tooLarge => "Compiled regex exceeds size limit of " ++ sizeLimit.repr ++ " bytes."
  | .noWordTable => "error building NFA"

def Term.ofString (pattern : String) : Except Fault Term := do
  let tree ← Tree.ofString pattern
  match tree.tooDeep? nestLimit with
  | some span => .error (span.fault .tooDeep)
  | none => do
    let (term, _) ← tree.meaning .initial
    .ok term

def Term.refusal? (term : Term) : Option Refusal :=
  if term.isDirect then none
  else if !term.fits false then some .tooLarge
  else if term.seeksWords then some .noWordTable
  else if !term.fits true then some .tooLarge
  else none

/-- Why a pattern cannot be used. Faults of the writing go before too deep nesting, that before a
piece without a meaning, and that before what stands in the way of a machine for the pattern, which
has to read forwards and then backwards. A pattern that is looked for by its texts needs none. -/
def refusal? (pattern : String) : Option Refusal :=
  match Term.ofString pattern with
  | .error fault => some (.faulty fault)
  | .ok term => term.refusal?

end IconCatalog.Pattern
