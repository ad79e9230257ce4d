import IconCatalog.EnvFile.Value
import IconCatalog.Text.Basic
set_option autoImplicit false

namespace IconCatalog.EnvFile

def startsKey (c : Char) : Bool := c.isAlpha || c = '_'

def continuesKey (c : Char) : Bool := c.isAlphanum || c = '_' || c = '.'

def takeKey (input : List Char) : Option (List Char × List Char) :=
  match input with
  | [] => none
  | c :: _ =>
    if startsKey c then
      some (input.takeWhile continuesKey, trimStart (input.dropWhile continuesKey))
    else none

def expectEqual : List Char → Option (List Char)
  | '=' :: rest => some rest
  | _ => none

/-- The key and what stands after the equals sign. A key may itself be the word `export`. -/
def takeTarget (input : List Char) : Option (List Char × List Char) :=
  (takeKey input).bind fun (key, rest) =>
    match expectEqual rest with
    | some value => some (key, value)
    | none =>
      if key = "export".toList then
        (takeKey rest).bind fun (key, rest) => (expectEqual rest).map fun value => (key, value)
      else none

def isVoid : List Char → Bool
  | [] => true
  | c :: _ => c = '#'

inductive LineMeaning
  | nothing
  | assignment (key : String) (value : List Char)
  | malformed
  deriving DecidableEq, Repr

/-- A line is blank, a comment, or the assignment of a value to a key, with the word `export` before
it or not. -/
def meaning (line : List Char) : LineMeaning :=
  let line := trimStart (trimEnd line)
  if isVoid line then .nothing
  else
    match takeTarget line with
    | none => .malformed
    | some (key, rest) => .assignment (String.ofList key) (trimStart rest)

/-- A value that is nothing or only a comment is empty. -/
def valueOf (lookup : String → String) (written : List Char) : Option String :=
  if isVoid written then some "" else readValue lookup .start written

end IconCatalog.EnvFile
