import IconCatalog.Json.Number
import IconCatalog.Json.Text
set_option autoImplicit false

namespace IconCatalog.Json

/-- The fault of a value that stands where `expected` should, with no blanks before it. The value is
read far enough to say what it is. -/
def mismatch (expected : String) : Bytes → Fault
  | [] => .unfinished
  | b :: rest =>
    let word (letters : Bytes) (found : Found) : Fault :=
      match expectWord letters rest with
      | .ok _ => .wrongType found expected
      | .error fault => fault
    if b = Byte.letterN then word [0x75, 0x6C, 0x6C] .null
    else if b = Byte.letterT then word [0x72, 0x75, 0x65] (.boolean true)
    else if b = Byte.letterF then word [0x61, 0x6C, 0x73, 0x65] (.boolean false)
    else if b = Byte.minus || Byte.isDigit b then
      match readNumber (b :: rest) with
      | .ok (.integer value, _) => .wrongType (.integer value) expected
      | .ok (.float, _) => .wrongType .float expected
      | .error fault => fault
    else if b = Byte.quote then
      match readText rest with
      | .ok (s, _) => .wrongType (.text s) expected
      | .error fault => fault
    else if b = Byte.openList then .wrongType .sequence expected
    else if b = Byte.openObject then .wrongType .map expected
    else .malformed

def readString (expected : String) (input : Bytes) : Except Fault (String × Bytes) :=
  match skipBlank input with
  | [] => .error .unfinished
  | b :: rest =>
    if b = Byte.quote then readText rest else .error (mismatch expected (b :: rest))

def sizeName : String := "usize"

def readSize (input : Bytes) : Except Fault (UInt64 × Bytes) :=
  match skipBlank input with
  | [] => .error .unfinished
  | b :: rest =>
    if b = Byte.minus || Byte.isDigit b then
      match readNumber (b :: rest) with
      | .ok (.integer value, rest) =>
        if value < 0 then .error (.outOfRange value sizeName)
        else .ok (UInt64.ofNat value.toNat, rest)
      | .ok (.float, _) => .error (.wrongType .float sizeName)
      | .error fault => .error fault
    else .error (mismatch sizeName (b :: rest))

def readWhole {α : Type} (reader : Reader α) (input : Bytes) : Except Fault α :=
  match reader input with
  | .error fault => .error fault
  | .ok (value, rest) => if (skipBlank rest).isEmpty then .ok value else .error .malformed

end IconCatalog.Json
