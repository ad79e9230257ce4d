import IconCatalog.Text.Quoted
set_option autoImplicit false

namespace IconCatalog.Json

inductive Found
  | null
  | boolean (value : Bool)
  | integer (value : Int)
  | float
  | text (value : String)
  | sequence
  | map
  deriving DecidableEq, Repr

def Found.message : Found → String
  | .null => "null"
  | .boolean true => "boolean `true`"
  | .boolean false => "boolean `false`"
  | .integer value => "integer `" ++ value.repr ++ "`"
  | .float => "floating point"
  | .text value => "string " ++ Quoted.text value
  | .sequence => "sequence"
  | .map => "map"

/-- Why a JSON text was not read as the value it should hold. Texts are read from the front, so the
first fault wins. The place of a fault in the text is not kept. -/
inductive Fault
  /-- The text is no JSON. -/
  | malformed
  /-- The text ends inside a value. -/
  | unfinished
  | wrongType (found : Found) (expected : String)
  | outOfRange (value : Int) (expected : String)
  | duplicateField (name : String)
  | missingField (name : String)
  | shortSequence (length : Nat) (expected : String)
  /-- The value is well formed, and its type has a rule of its own against it. -/
  | refused (message : String)
  deriving DecidableEq, Repr

/-- The message of a fault. Its line and column are not modelled, and of a float only the kind is
told, without its value. The texts for `malformed` and `unfinished` are no texts of the program: each
stands for all messages about a text that is no JSON, or that ends too early. -/
def Fault.message : Fault → String
  | .malformed => "json syntax error"
  | .unfinished => "json eof error"
  | .wrongType found expected => "invalid type: " ++ found.message ++ ", expected " ++ expected
  | .outOfRange value expected =>
    "invalid value: integer `" ++ value.repr ++ "`, expected " ++ expected
  | .duplicateField name => "duplicate field `" ++ name ++ "`"
  | .missingField name => "missing field `" ++ name ++ "`"
  | .shortSequence length expected =>
    "invalid length " ++ length.repr ++ ", expected " ++ expected
  | .refused message => message

end IconCatalog.Json
