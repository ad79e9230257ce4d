import IconCatalog.Json.Scalar
set_option autoImplicit false

namespace IconCatalog.Json

def beforeEnding? (ending text : List Char) : Option (List Char) :=
  if ending.isSuffixOf text then some (text.take (text.length - ending.length)) else none

/-- The text before a number of 64 bits at its end. -/
def beforeNumber? (text : List Char) : Option (List Char) :=
  let digits := (text.reverse.takeWhile Char.isDigit).reverse
  if digits ≠ [] ∧ Nat.ofDigitChars 10 digits 0 < UInt64.size then
    some (text.take (text.length - digits.length))
  else none

/-- The text before ` at line L column C`. -/
def beforeLocation? (text : List Char) : Option (List Char) :=
  (beforeNumber? text).bind fun text =>
  (beforeEnding? " column ".toList text).bind fun text =>
  (beforeNumber? text).bind fun text =>
  beforeEnding? " at line ".toList text

/-- A message without a location at its end, which a reader of messages would take for the place of
the fault. -/
def withoutLocation (message : String) : String :=
  match beforeLocation? message.toList with
  | some text => String.ofList text
  | none => message

def readNamed {α ε : Type} (parse : String → Except ε α) (message : ε → String) (input : Bytes) :
    Except Fault (α × Bytes) :=
  match readString "a string" input with
  | .error fault => .error fault
  | .ok (s, rest) =>
    match parse s with
    | .ok value => .ok (value, rest)
    | .error e => .error (.refused (withoutLocation (message e)))

end IconCatalog.Json
